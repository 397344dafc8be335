import Whip6.Lowpan.Session

/-!
# What holds in every session

A property of the frames that were accepted for a reassembly, of the bytes of its IPv6 packet and of
its fragment specifications, that is kept when one frame is accepted, holds of every live reassembly
and of every packet handed up, in every session (`LowpanDefragSession.run_inv`).
-/

namespace Whip6

open Lib

/-! ## What is kept -/

/-- A property of a reassembly: of the frames accepted for it, the bytes of its IPv6 packet, and its
fragment specifications. -/
abbrev ReassemblyPred := List LowpanReceivedFrame → List UInt8 → List FragEntry → Prop

/-- The property holds of an empty reassembly, and is kept when a frame is accepted that is `Ok`. -/
structure ReassemblyPred.Kept (P : ReassemblyPred)
    (Ok : LowpanReceivedFrame → ReassemblyPred) : Prop where
  empty : ∀ flat ptr, 40 ≤ flat.length → flat.length < 0x800 → P [] flat [⟨ptr, 0, 0⟩]
  accept : ∀ frames flat frags free f identical, P frames flat frags → Ok f frames flat frags →
    flat.length < 0x800 → f.size = flat.length → 0 < f.bytes.length → f.span.stop ≤ flat.length →
    (identical = true ↔ StandsAt flat f.offset f.bytes ∧
      (f.offset = 0 → 0 < (frags.head?.map FragEntry.size).getD 0)) →
    (mergeFragEntries frags free f.hdrs.frag.offset (UInt16.ofNat f.bytes.length) identical).1 =
      true →
    P (f :: frames) (splice flat f.offset f.bytes)
      (mergeFragEntries frags free f.hdrs.frag.offset (UInt16.ofNat f.bytes.length) identical).2.1

namespace LowpanDefragSession

/-- The bytes of an IPv6 packet. -/
def flat (s : LowpanDefragSession) (k : ℕ) : List UInt8 := (s.state.ipv6.packets k).flat

/-- A packet that was handed up is complete, and the property holds of it. -/
def HandedOk (P : ReassemblyPred) (s : LowpanDefragSession) (e : LowpanHandedUp) : Prop :=
  e.packet.flat.length = e.size ∧ 40 ≤ e.size ∧ e.size < 0x800 ∧
    (∃ key, ∀ f ∈ s.accepted e.number, f.key = key ∧ f.size = e.size) ∧
    ∃ f rest, f.span = ⟨0, e.size⟩ ∧ P (s.accepted e.number) e.packet.flat (f :: rest)

/-- The lists that the memory of a session represents, with a property of every reassembly, whether
it is live or was handed up. -/
structure Inv (P : ReassemblyPred) (numPackets numFragSpecs : ℕ) (s : LowpanDefragSession)
    (t : DefragLists) : Prop where
  represents : s.state.Represents t [] numPackets numFragSpecs
  partition : t.Partition [] (s.handed.map LowpanHandedUp.number) numPackets numFragSpecs
  fresh : ∀ k, t.ipv6.numAllocated ≤ k → s.accepted k = []
  length : ∀ r ∈ t.live [], (s.flat r.packet).length = r.totalSize.toNat ∧
    40 ≤ r.totalSize.toNat ∧ r.totalSize.toNat < 0x800
  live : ∀ r ∈ t.live [], P (s.accepted r.packet) (s.flat r.packet) r.frags
  belong : ∀ r ∈ t.live [], ∀ f ∈ s.accepted r.packet, f.BelongsTo r
  lockedFor : ∀ r ∈ t.locked, ∃ f, s.lockedFor r.id = some f ∧ f.BelongsTo r
  handed : ∀ e ∈ s.handed, HandedOk P s e

/-- Every frame that is passed to a packet state on the way is `Ok`. -/
def PassOk (Ok : LowpanReceivedFrame → ReassemblyPred) (s : LowpanDefragSession) :
    LowpanDefragEvent → Prop
  | .pass p => ∀ f k, s.lockedFor p = some f → p ∈ s.state.lockedList →
      (s.state.packets p).packet = some k → Ok f (s.accepted k) (s.flat k) (s.state.fragEntries p)
  | _ => True

/-- Every frame that is passed during a run is `Ok`. -/
def RunOk (Ok : LowpanReceivedFrame → ReassemblyPred) (s : LowpanDefragSession) :
    List LowpanDefragEvent → Prop
  | [] => True
  | event :: events => s.PassOk Ok event ∧ RunOk Ok (s.step event) events

section Inv

variable {P : ReassemblyPred} {Ok : LowpanReceivedFrame → ReassemblyPred}
  {numPackets numFragSpecs : ℕ} {s s' : LowpanDefragSession} {t t' : DefragLists}

/-- A reassembly is the same as before, or it is empty and new. -/
def OldOrNew (t t' : DefragLists) (r : Reassembly) : Prop :=
  (r ∈ t.live [] ∧ t'.ipv6.packets r.packet = t.ipv6.packets r.packet) ∨
    (t.ipv6.numAllocated ≤ r.packet ∧ (∃ ptr, r.frags = [⟨ptr, 0, 0⟩]) ∧
      (t'.ipv6.packets r.packet).flat.length = r.totalSize.toNat ∧ 40 ≤ r.totalSize.toNat ∧
      r.totalSize.toNat < 0x800)

/-- A step that accepts no frame. -/
theorem Inv.frame (hP : P.Kept Ok) (h : Inv P numPackets numFragSpecs s t)
    (hrep : s'.state.Represents t' [] numPackets numFragSpecs)
    (hpart : t'.Partition [] (s.handed.map LowpanHandedUp.number) numPackets numFragSpecs)
    (hhanded : s'.handed = s.handed) (haccepted : s'.accepted = s.accepted)
    (hnum : t.ipv6.numAllocated ≤ t'.ipv6.numAllocated)
    (hlive : ∀ r ∈ t'.live [], OldOrNew t t' r)
    (hlocked : ∀ r ∈ t'.locked, ∃ f, s'.lockedFor r.id = some f ∧ f.BelongsTo r) :
    Inv P numPackets numFragSpecs s' t' := by
  have hflat : ∀ k, s'.flat k = (t'.ipv6.packets k).flat := fun k => by rw [flat, hrep.ipv6]
  have hflat₀ : ∀ k, s.flat k = (t.ipv6.packets k).flat := fun k => by rw [flat, h.represents.ipv6]
  refine ⟨hrep, hhanded ▸ hpart, fun k hk => ?_, fun r hr => ?_, fun r hr => ?_, fun r hr => ?_,
    hlocked, ?_⟩
  · rw [haccepted]
    exact h.fresh k (hnum.trans hk)
  · rcases hlive r hr with ⟨hr', heq⟩ | ⟨-, -, hlen⟩
    · rw [hflat, heq, ← hflat₀]
      exact h.length r hr'
    · rw [hflat]
      exact hlen
  · rcases hlive r hr with ⟨hr', heq⟩ | ⟨hk, ⟨ptr, hfrags⟩, hlen, hlo, hhi⟩
    · rw [haccepted, hflat, heq, ← hflat₀]
      exact h.live r hr'
    · rw [haccepted, h.fresh _ hk, hflat, hfrags]
      exact hP.empty _ _ (hlen ▸ hlo) (hlen ▸ hhi)
  · rw [haccepted]
    rcases hlive r hr with ⟨hr', -⟩ | ⟨hk, -⟩
    · exact h.belong r hr'
    · rw [h.fresh _ hk]
      exact fun f hf => absurd hf List.not_mem_nil
  · rw [hhanded]
    intro e he
    rw [HandedOk, haccepted]
    exact h.handed e he

end Inv

end LowpanDefragSession

/-! ## Keys -/

theorem lowpanFragSetKeyMatches_iff (key : LowpanDefragFragSetKey) (frame : Ieee154DframeInfo)
    (hdrs : LowpanUnpackedFrameHeaders) :
    lowpanFragSetKeyMatches key frame hdrs = true ↔ key = lowpanFragSetKeyOfFrame frame hdrs := by
  obtain ⟨tag, src, dst, pan⟩ := key
  simp [lowpanFragSetKeyMatches, lowpanFragSetKeyOfFrame, ieee154AddrAnyCmp_eq_zero_iff,
    ieee154PanIdCmp_eq_zero_iff, and_assoc]

/-! ## Where the IPv6 packets are -/

namespace DefragLists.Partition

variable {t : DefragLists} {hand : List Reassembly} {handed : List ℕ} {r q : Reassembly}
  {numPackets numFragSpecs : ℕ}

theorem nodup_ipv6 (h : t.Partition hand handed numPackets numFragSpecs) :
    ((t.live hand).map Reassembly.packet ++ t.ipv6.freed ++ handed).Nodup :=
  h.ipv6.nodup_iff.mpr List.nodup_range

theorem packet_lt (h : t.Partition hand handed numPackets numFragSpecs) :
    ∀ r ∈ t.live hand, r.packet < t.ipv6.numAllocated := by
  intro r hr
  refine List.mem_range.mp (h.ipv6.mem_iff.mp ?_)
  simp only [List.mem_append]
  exact Or.inl (Or.inl (List.mem_map_of_mem hr))

/-- The IPv6 packet of a reassembly that an operation holds is nowhere else. -/
theorem hand_packet (h : t.Partition (r :: hand) handed numPackets numFragSpecs) :
    (∀ q ∈ t.live hand, q.packet ≠ r.packet) ∧ r.packet ∉ t.ipv6.freed ∧ r.packet ∉ handed := by
  have hperm : ((t.live (r :: hand)).map Reassembly.packet ++ t.ipv6.freed ++ handed).Perm
      (r.packet :: ((t.live hand).map Reassembly.packet ++ t.ipv6.freed ++ handed)) := by
    rw [List.perm_iff_count]
    intro x
    simp only [live, List.map_append, List.map_cons, List.count_append, List.count_cons]
    omega
  have hnot := (List.nodup_cons.mp (hperm.nodup_iff.mp h.nodup_ipv6)).1
  simp only [List.mem_append, not_or] at hnot
  refine ⟨fun q hq heq => hnot.1.1 ?_, hnot.1.2, hnot.2⟩
  exact heq ▸ List.mem_map_of_mem hq

/-- A packet state determines its reassembly. -/
theorem eq_of_id_eq (h : t.Partition hand handed numPackets numFragSpecs) (hr : r ∈ t.live hand)
    (hq : q ∈ t.live hand) (heq : r.id = q.id) : r = q :=
  List.inj_on_of_nodup_map (List.nodup_append.mp h.nodup_ids).1 hr hq heq

end DefragLists.Partition

/-! ## The calls on the lists -/

namespace DefragLists

variable {t : DefragLists}

/-- What locking a packet state for a frame does. -/
theorem findAndLock_cases (t : DefragLists) (frame : Ieee154DframeInfo)
    (hdrs : LowpanUnpackedFrameHeaders) (time : UInt32) (answers : Ipv6AllocAnswers) :
    let r := t.findAndLock frame hdrs time answers
    (∀ q ∈ r.2.current, q ∈ t.current) ∧
      ((r.1 = none ∧ r.2.locked = t.locked ∧ r.2.ipv6.packets = t.ipv6.packets ∧
          r.2.ipv6.numAllocated = t.ipv6.numAllocated) ∨
        (∃ q ∈ t.current, r.1 = some q.id ∧ q.totalSize = hdrs.frag.size ∧
          lowpanFragSetKeyMatches q.key frame hdrs = true ∧
          r.2.locked = q :: t.locked ∧ r.2.ipv6 = t.ipv6) ∨
        ∃ p packet, r.1 = some p ∧ hdrs.bitmap.frag = true ∧ 40 ≤ hdrs.frag.size.toNat ∧
          ipv6AllocatePacket answers (hdrs.frag.size.toNat - 40) = some packet ∧
          r.2.locked = ⟨p, t.ipv6.numAllocated, lowpanFragSetKeyOfFrame frame hdrs, hdrs.frag.size,
            time, [⟨.first p, 0, 0⟩]⟩ :: t.locked ∧
          r.2.ipv6.packets = Function.update t.ipv6.packets t.ipv6.numAllocated packet ∧
          r.2.ipv6.numAllocated = t.ipv6.numAllocated + 1) := by
  have halloc : ∀ t₁ : DefragLists, (∀ q ∈ t₁.current, q ∈ t.current) → t₁.locked = t.locked →
      t₁.ipv6.packets = t.ipv6.packets → t₁.ipv6.numAllocated = t.ipv6.numAllocated →
      hdrs.bitmap.frag = true → 40 ≤ hdrs.frag.size.toNat →
      let r := t₁.allocateAndLock frame hdrs time answers
      (∀ q ∈ r.2.current, q ∈ t.current) ∧
      ((r.1 = none ∧ r.2.locked = t.locked ∧ r.2.ipv6.packets = t.ipv6.packets ∧
          r.2.ipv6.numAllocated = t.ipv6.numAllocated) ∨
        ∃ p packet, r.1 = some p ∧ hdrs.bitmap.frag = true ∧ 40 ≤ hdrs.frag.size.toNat ∧
          ipv6AllocatePacket answers (hdrs.frag.size.toNat - 40) = some packet ∧
          r.2.locked = ⟨p, t.ipv6.numAllocated, lowpanFragSetKeyOfFrame frame hdrs, hdrs.frag.size,
            time, [⟨.first p, 0, 0⟩]⟩ :: t.locked ∧
          r.2.ipv6.packets = Function.update t.ipv6.packets t.ipv6.numAllocated packet ∧
          r.2.ipv6.numAllocated = t.ipv6.numAllocated + 1) := by
    intro t₁ hcurrent hlocked hpackets hnum hfrag hsize
    unfold allocateAndLock
    split
    · rename_i p free packet hfree halloc
      refine ⟨hcurrent, Or.inr ⟨p, packet, rfl, hfrag, hsize, halloc, ?_, ?_, ?_⟩⟩
      · rw [← hnum, ← hlocked]
      · rw [← hnum, ← hpackets]
        rfl
      · rw [← hnum]
        rfl
    · exact ⟨hcurrent, Or.inl ⟨rfl, hlocked, hpackets, hnum⟩⟩
  unfold findAndLock
  split_ifs with hbad
  · exact ⟨fun q hq => hq, Or.inl ⟨rfl, rfl, rfl, rfl⟩⟩
  · simp only [not_or, not_not, Nat.not_lt] at hbad
    obtain ⟨-, hfrag, hsize⟩ := hbad
    split
    · obtain ⟨hcurrent, hcases⟩ := halloc t (fun q hq => hq) rfl rfl rfl hfrag hsize
      exact ⟨hcurrent, hcases.imp_right Or.inr⟩
    · rename_i q hfind
      have herase : ∀ q' ∈ t.current.eraseP fun r => lowpanFragSetKeyMatches r.key frame hdrs,
          q' ∈ t.current := fun q' hq' => List.mem_of_mem_eraseP hq'
      dsimp only
      split_ifs with hsame
      · obtain ⟨hcurrent, hcases⟩ := halloc
          (({ t with current := t.current.eraseP fun r =>
            lowpanFragSetKeyMatches r.key frame hdrs } : DefragLists).destroy q) herase rfl rfl rfl
            hfrag hsize
        exact ⟨hcurrent, hcases.imp_right Or.inr⟩
      · refine ⟨herase, Or.inr (Or.inl ⟨q, List.mem_of_find?_eq_some hfind, rfl, ?_, ?_, rfl, rfl⟩)⟩
        · exact not_not.mp hsame
        · simpa using List.find?_some hfind

theorem unlock_cases (token : Option ℕ) :
    (t.unlock token = none ∧ ∀ r ∈ t.locked, some r.id ≠ token) ∨
      ∃ r t', t.unlock token = some (r, t') ∧ r ∈ t.locked ∧ some r.id = token ∧
        (r :: t'.locked).Perm t.locked ∧ t' = { t with locked := t'.locked } := by
  cases hu : t.unlock token with
  | none =>
    refine Or.inl ⟨rfl, fun r hr heq => ?_⟩
    rw [unlock, Option.map_eq_none_iff, List.find?_eq_none] at hu
    exact hu r hr (by simpa using heq)
  | some u =>
    obtain ⟨r, t'⟩ := u
    rw [unlock, Option.map_eq_some_iff] at hu
    obtain ⟨r', hfind, heq⟩ := hu
    obtain ⟨rfl, rfl⟩ := Prod.mk.inj heq
    refine Or.inr ⟨r', _, rfl, List.mem_of_find?_eq_some hfind, ?_, perm_cons_eraseP hfind, rfl⟩
    simpa using List.find?_some hfind

/-- What passing a frame to a packet state does, once it is unlocked: the IPv6 packet is given up,
or the frame is accepted and the packet is complete or goes back to the current ones. -/
theorem passFrame_cases (frame : Ieee154DframeInfo) (hdrs : LowpanUnpackedFrameHeaders)
    {token : Option ℕ} {r : Reassembly} {t₀ : DefragLists} (hu : t.unlock token = some (r, t₀)) :
    let copied := lowpanDefragmenterCopyFragment frame hdrs (t₀.ipv6.packets r.packet)
      (firstFragSize r)
    let heap := t₀.ipv6.write r.packet copied.2
    ((∀ len identical, copied.1 = some (len, identical) →
        (mergeFragEntries r.frags t₀.freeFragSpecs hdrs.frag.offset (UInt16.ofNat len)
          identical).1 = false) ∧
      ∃ free specs, t.passFrame frame hdrs token =
        (none, { t₀ with free := free, freeFragSpecs := specs, ipv6 := heap.free r.packet })) ∨
      ∃ len identical, copied.1 = some (len, identical) ∧
        let m := mergeFragEntries r.frags t₀.freeFragSpecs hdrs.frag.offset (UInt16.ofNat len)
          identical
        m.1 = true ∧
          ((isComplete m.2.1 hdrs.frag.size = true ∧
              ∃ free specs, t.passFrame frame hdrs token =
                (some r.packet, { t₀ with free := free, freeFragSpecs := specs, ipv6 := heap })) ∨
            isComplete m.2.1 hdrs.frag.size = false ∧
              ∃ specs, t.passFrame frame hdrs token =
                (none, { t₀ with
                  current := { r with frags := m.2.1 } :: t₀.current
                  freeFragSpecs := specs
                  ipv6 := heap })) := by
  dsimp only
  unfold passFrame
  rw [hu]
  dsimp only
  cases hc : (lowpanDefragmenterCopyFragment frame hdrs (t₀.ipv6.packets r.packet)
      (firstFragSize r)).1 with
  | none => exact Or.inl ⟨fun _ _ h => absurd h (by simp), _, _, rfl⟩
  | some c =>
    obtain ⟨len, identical⟩ := c
    dsimp only
    split_ifs with hfailed hcomplete
    · refine Or.inl ⟨fun len' identical' heq => ?_, _, _, rfl⟩
      obtain ⟨rfl, rfl⟩ := Prod.mk.inj (Option.some.inj heq)
      exact hfailed
    · exact Or.inr ⟨_, _, rfl, by simpa using hfailed, Or.inl ⟨hcomplete, _, _, rfl⟩⟩
    · exact Or.inr ⟨_, _, rfl, by simpa using hfailed, Or.inr ⟨by simpa using hcomplete, _, rfl⟩⟩

theorem exists_of_isComplete {frags : List FragEntry} {size : UInt16}
    (h : isComplete frags size = true) :
    ∃ f rest, frags = f :: rest ∧ f.span = ⟨0, size.toNat⟩ := by
  cases frags with
  | nil => cases h
  | cons f rest =>
    obtain ⟨hoff, hsize⟩ := (Bool.and_eq_true _ _).mp h
    refine ⟨f, rest, rfl, ?_⟩
    simp only [FragEntry.span, eq_of_beq hoff, eq_of_beq hsize, UInt16.toNat_zero, Nat.zero_add]

/-- Destroying packets does not write to any IPv6 packet. -/
theorem foldl_destroy_ipv6 (t : DefragLists) (rs : List Reassembly) :
    (rs.foldl destroy t).ipv6.packets = t.ipv6.packets ∧
      (rs.foldl destroy t).ipv6.numAllocated = t.ipv6.numAllocated ∧
      (rs.foldl destroy t).locked = t.locked := by
  induction rs generalizing t with
  | nil => exact ⟨rfl, rfl, rfl⟩
  | cons r rs ih => exact ih (t.destroy r)

end DefragLists

/-- What is known of a frame that was copied and merged. -/
theorem ReassemblyPred.Kept.of_copied {P : ReassemblyPred}
    {Ok : LowpanReceivedFrame → ReassemblyPred} (hP : P.Kept Ok) {f : LowpanReceivedFrame}
    {packet : Ipv6Packet} {frames : List LowpanReceivedFrame} {r : Reassembly} {len : ℕ} {identical : Bool}
    (hr : P frames packet.flat r.frags) (hok : Ok f frames packet.flat r.frags)
    (hlt : packet.flat.length < 0x800) (hsize : f.size = packet.flat.length)
    (hcopied : (lowpanDefragmenterCopyFragment f.frame f.hdrs packet
      (DefragLists.firstFragSize r)).1 = some (len, identical)) (free : List FragSpecPtr)
    (hm : (mergeFragEntries r.frags free f.hdrs.frag.offset (UInt16.ofNat len) identical).1 =
      true) :
    let content := (lowpanDefragmenterCopyFragment f.frame f.hdrs packet
      (DefragLists.firstFragSize r)).2
    P (f :: frames) content.flat
        (mergeFragEntries r.frags free f.hdrs.frag.offset (UInt16.ofNat len) identical).2.1 ∧
      content.flat.length = packet.flat.length := by
  obtain ⟨hlen, hpos, hfits, hflat, hid⟩ := copyFragment_some f.holdsPayload hcopied
  dsimp only at hfits ⊢
  subst hlen
  rw [hflat, length_splice]
  refine ⟨hP.accept frames packet.flat r.frags free f identical hr hok hlt hsize hpos hfits ?_ hm,
    rfl⟩
  rw [hid]
  exact and_congr_right fun _ => imp_congr_right fun _ => UInt16.lt_iff_toNat_lt

namespace LowpanDefragSession

section Steps

variable {P : ReassemblyPred} {Ok : LowpanReceivedFrame → ReassemblyPred}
  {numPackets numFragSpecs : ℕ} {s : LowpanDefragSession} {t : DefragLists}

theorem Inv.find (hP : P.Kept Ok) (h : Inv P numPackets numFragSpecs s t) (f : LowpanReceivedFrame)
    (time : UInt32) (answers : Ipv6AllocAnswers) (fits : IovChunksFit answers.chunks (f.size - 40)) :
    Inv P numPackets numFragSpecs (s.step (.find f time answers fits))
      (t.findAndLock f.frame f.hdrs time answers).2 := by
  obtain ⟨hans, hrep⟩ := LowpanDefragGlobalState.findAndLock_refines h.represents h.partition f.frame
    f.hdrs time answers
  have hpart := DefragLists.partition_findAndLock h.partition f.frame f.hdrs time answers
  obtain ⟨hcurrent, hcases⟩ := DefragLists.findAndLock_cases t f.frame f.hdrs time answers
  have hlt : ∀ r ∈ t.live [], r.packet < t.ipv6.numAllocated := h.partition.packet_lt
  have hmem : ∀ q, q ∈ (t.findAndLock f.frame f.hdrs time answers).2.live [] ↔
      q ∈ (t.findAndLock f.frame f.hdrs time answers).2.current ∨
        q ∈ (t.findAndLock f.frame f.hdrs time answers).2.locked := by
    intro q
    simp [DefragLists.live]
  have hold : ∀ q, q ∈ t.current ∨ q ∈ t.locked → q ∈ t.live [] := by
    intro q hq
    simpa [DefragLists.live] using hq
  have hlocked : ∀ (p : ℕ) (q : Reassembly), q.id = p → f.BelongsTo q →
      (t.findAndLock f.frame f.hdrs time answers).1 = some p →
      (t.findAndLock f.frame f.hdrs time answers).2.locked = q :: t.locked →
      ∀ r ∈ (t.findAndLock f.frame f.hdrs time answers).2.locked, ∃ g,
        (if (t.findAndLock f.frame f.hdrs time answers).1 = some r.id then some f
          else s.lockedFor r.id) = some g ∧ g.BelongsTo r := by
    rintro p q rfl hbelongs hsome heq r hr
    by_cases hid : r.id = q.id
    · have hr' := (hmem r).mpr (Or.inr hr)
      have hq' := (hmem q).mpr (Or.inr (heq ▸ List.mem_cons_self))
      rw [hpart.eq_of_id_eq hr' hq' hid, if_pos hsome]
      exact ⟨f, rfl, hbelongs⟩
    · rw [hsome, if_neg fun h => hid (Option.some.inj h).symm]
      rw [heq] at hr
      rcases List.mem_cons.mp hr with rfl | hr'
      · exact absurd rfl hid
      · exact h.lockedFor r hr'
  simp only [step, hans]
  rcases hcases with ⟨hnone, hlock, hpackets, hnum⟩ | ⟨q, hq, hsome, hsize, hkey, hlock, hipv6⟩ |
    ⟨p, packet, hsome, hfrag, hsize, halloc, hlock, hpackets, hnum⟩
  · refine h.frame hP hrep hpart rfl rfl hnum.ge (fun r hr => Or.inl ⟨?_, by rw [hpackets]⟩) ?_
    · rcases (hmem r).mp hr with hr' | hr'
      · exact hold r (Or.inl (hcurrent r hr'))
      · exact hold r (Or.inr (hlock ▸ hr'))
    · intro r hr
      rw [hlock] at hr
      simp only [hnone, reduceCtorEq, if_false]
      exact h.lockedFor r hr
  · refine h.frame hP hrep hpart rfl rfl (by rw [hipv6])
      (fun r hr => Or.inl ⟨?_, by rw [hipv6]⟩) (hlocked _ q rfl
        ⟨((lowpanFragSetKeyMatches_iff _ _ _).mp hkey).symm, hsize.symm⟩ hsome hlock)
    rcases (hmem r).mp hr with hr' | hr'
    · exact hold r (Or.inl (hcurrent r hr'))
    · rw [hlock] at hr'
      rcases List.mem_cons.mp hr' with rfl | hr''
      · exact hold r (Or.inl hq)
      · exact hold r (Or.inr hr'')
  · have hbound := (f.fragWithinBits hfrag).1
    have hlen : packet.flat.length = f.hdrs.frag.size.toNat := by
      unfold ipv6AllocatePacket at halloc
      split at halloc
      · cases halloc
      · rw [Option.map_eq_some_iff] at halloc
        obtain ⟨payload, hchain, rfl⟩ := halloc
        rw [Ipv6Packet.length_flat, iovAllocateChain_length fits hchain]
        rw [LowpanReceivedFrame.size]
        omega
    have hsame : ∀ r ∈ t.live [],
        (t.findAndLock f.frame f.hdrs time answers).2.ipv6.packets r.packet =
          t.ipv6.packets r.packet := by
      intro r hr
      rw [hpackets]
      exact Function.update_of_ne (Nat.ne_of_lt (hlt r hr)) _ _
    refine h.frame hP hrep hpart rfl rfl (by rw [hnum]; exact Nat.le_succ _) (fun r hr => ?_)
      (hlocked p _ rfl ⟨rfl, rfl⟩ hsome hlock)
    rcases (hmem r).mp hr with hr' | hr'
    · have hr'' := hold r (Or.inl (hcurrent r hr'))
      exact Or.inl ⟨hr'', hsame r hr''⟩
    · rw [hlock] at hr'
      rcases List.mem_cons.mp hr' with rfl | hr''
      · refine Or.inr ⟨le_rfl, ⟨_, rfl⟩, ?_, hsize, hbound⟩
        rw [hpackets, Function.update_self]
        exact hlen
      · have hr₃ := hold r (Or.inr hr'')
        exact Or.inl ⟨hr₃, hsame r hr₃⟩

theorem Inv.unlock (hP : P.Kept Ok) (h : Inv P numPackets numFragSpecs s t) (p : ℕ) :
    Inv P numPackets numFragSpecs (s.step (.unlock p)) (t.unlockPacket (some p)).2 := by
  obtain ⟨-, hrep⟩ := LowpanDefragGlobalState.unlockPacket_refines h.represents h.partition (some p)
  have hpart := DefragLists.partition_unlockPacket h.partition (some p)
  rcases DefragLists.unlock_cases (t := t) (some p) with ⟨hu, -⟩ |
    ⟨r, t', hu, -, -, hperm, ht'⟩
  · simp only [DefragLists.unlockPacket, hu] at hrep hpart ⊢
    exact h.frame hP hrep hpart rfl rfl le_rfl (fun r hr => Or.inl ⟨hr, rfl⟩) h.lockedFor
  · simp only [DefragLists.unlockPacket, hu] at hrep hpart ⊢
    have hsub : ∀ q ∈ t'.locked, q ∈ t.locked := fun q hq =>
      hperm.mem_iff.mp (List.mem_cons_of_mem _ hq)
    have hr : r ∈ t.locked := hperm.mem_iff.mp List.mem_cons_self
    rw [ht'] at hrep hpart ⊢
    refine h.frame hP hrep hpart rfl rfl le_rfl (fun q hq => Or.inl ⟨?_, rfl⟩) fun q hq =>
      h.lockedFor q (hsub q hq)
    simp only [DefragLists.live, List.append_nil, List.mem_append, List.mem_cons] at hq ⊢
    rcases hq with (rfl | hq) | hq
    · exact Or.inr hr
    · exact Or.inl hq
    · exact Or.inr (hsub q hq)

theorem Inv.timeout (hP : P.Kept Ok) (h : Inv P numPackets numFragSpecs s t) (time limit : UInt32) :
    Inv P numPackets numFragSpecs (s.step (.timeout time limit)) (t.periodicTimeout time limit).2 := by
  obtain ⟨-, hrep⟩ :=
    LowpanDefragGlobalState.periodicTimeout_refines h.represents h.partition time limit
  have hpart := DefragLists.partition_periodicTimeout h.partition time limit
  simp only [step]
  unfold DefragLists.periodicTimeout at hrep hpart ⊢
  split_ifs at hrep hpart ⊢ with hlocked
  · exact h.frame hP hrep hpart rfl rfl le_rfl (fun r hr => Or.inl ⟨hr, rfl⟩) h.lockedFor
  · obtain ⟨hpackets, hnum, hlock⟩ := DefragLists.foldl_destroy_ipv6 t
      (t.current.filter fun r => !decide (time - r.defragStartTime < limit))
    refine h.frame hP hrep hpart rfl rfl hnum.ge (fun q hq => Or.inl ⟨?_, by dsimp only; rw [hpackets]⟩)
      fun q hq => h.lockedFor q (hlock ▸ hq)
    simp only [DefragLists.live, List.append_nil, List.mem_append, hlock, List.mem_filter] at hq ⊢
    exact hq.imp_left And.left

theorem Inv.terminate (hP : P.Kept Ok) (h : Inv P numPackets numFragSpecs s t) :
    Inv P numPackets numFragSpecs (s.step .terminate) t.terminateAll.2 := by
  obtain ⟨-, hrep⟩ := LowpanDefragGlobalState.terminateAll_refines h.represents h.partition
  have hpart := DefragLists.partition_terminateAll h.partition
  simp only [step]
  unfold DefragLists.terminateAll at hrep hpart ⊢
  split_ifs at hrep hpart ⊢ with hlocked
  · exact h.frame hP hrep hpart rfl rfl le_rfl (fun r hr => Or.inl ⟨hr, rfl⟩) h.lockedFor
  · obtain ⟨hpackets, hnum, hlock⟩ := DefragLists.foldl_destroy_ipv6 t t.current
    refine h.frame hP hrep hpart rfl rfl hnum.ge (fun q hq => Or.inl ⟨?_, by dsimp only; rw [hpackets]⟩)
      fun q hq => h.lockedFor q (hlock ▸ hq)
    simp only [DefragLists.live, List.append_nil, List.nil_append, hlock] at hq
    simp only [DefragLists.live, List.append_nil, List.mem_append]
    exact Or.inr hq

/-- A step that accepts a frame for a packet state that was unlocked. -/
theorem Inv.accept (h : Inv P numPackets numFragSpecs s t) {token : Option ℕ} {r : Reassembly}
    {t₀ t' : DefragLists} {s' : LowpanDefragSession} {content : Ipv6Packet} {frags : List FragEntry}
    (hu : t.unlock token = some (r, t₀)) (hrep : s'.state.Represents t' [] numPackets numFragSpecs)
    (hpart : t'.Partition [] (s'.handed.map LowpanHandedUp.number) numPackets numFragSpecs)
    (hipv6 : t'.ipv6 = t₀.ipv6.write r.packet content)
    (hlocked : t'.locked = t₀.locked) (hfor : s'.lockedFor = s.lockedFor)
    (hcurrent : ∀ q ∈ t'.current, q ∈ t₀.current ∨ q = { r with frags := frags })
    (hlen : content.flat.length = (s.flat r.packet).length)
    (hother : ∀ k, k ≠ r.packet → s'.accepted k = s.accepted k)
    (hbelong : ∀ f ∈ s'.accepted r.packet, f.BelongsTo r)
    (hnew : P (s'.accepted r.packet) content.flat frags)
    (hhanded : ∀ e ∈ s'.handed, e ∈ s.handed ∨ HandedOk P s' e) :
    Inv P numPackets numFragSpecs s' t' := by
  obtain ⟨hne, -, hnot⟩ := (h.partition.unlock hu).hand_packet
  rcases DefragLists.unlock_cases (t := t) token with ⟨hnone, -⟩ |
    ⟨r', t₁, hu', hr, -, hperm, ht₀⟩
  · rw [hnone] at hu
    cases hu
  · obtain ⟨rfl, rfl⟩ := Prod.mk.inj (Option.some.inj (hu'.symm.trans hu))
    have hlive : r' ∈ t.live [] := by simp [DefragLists.live, hr]
    have hipv6₀ : t₁.ipv6 = t.ipv6 := by rw [ht₀]
    have hsublocked : ∀ q ∈ t₁.locked, q ∈ t.locked := fun q hq =>
      hperm.mem_iff.mp (List.mem_cons_of_mem _ hq)
    have hsub : ∀ q ∈ t₁.live [], q ∈ t.live [] := by
      intro q hq
      rw [ht₀] at hq
      simp only [DefragLists.live, List.append_nil, List.mem_append] at hq ⊢
      exact hq.imp_right (hsublocked q)
    have hcases : ∀ q ∈ t'.live [], q ∈ t₁.live [] ∨ q = { r' with frags := frags } := by
      intro q hq
      simp only [DefragLists.live, List.append_nil, List.mem_append, hlocked] at hq ⊢
      rcases hq with hq | hq
      · exact (hcurrent q hq).imp_left Or.inl
      · exact Or.inl (Or.inr hq)
    have hold : ∀ q ∈ t₁.live [], s'.accepted q.packet = s.accepted q.packet ∧
        s'.flat q.packet = s.flat q.packet := by
      intro q hq
      refine ⟨hother _ (hne q hq), ?_⟩
      rw [flat, flat, hrep.ipv6, h.represents.ipv6, hipv6, hipv6₀]
      exact congrArg _ (Function.update_of_ne (hne q hq) _ _)
    have hflat : s'.flat r'.packet = content.flat := by
      rw [flat, hrep.ipv6, hipv6]
      exact congrArg _ (Function.update_self _ _ _)
    refine ⟨hrep, hpart, fun k hk => ?_, fun q hq => ?_, fun q hq => ?_, fun q hq => ?_,
      fun q hq => ?_, fun e he => ?_⟩
    · rw [hipv6, hipv6₀] at hk
      rw [hother k (Nat.ne_of_gt (Nat.lt_of_lt_of_le (h.partition.packet_lt r' hlive) hk))]
      exact h.fresh k hk
    · rcases hcases q hq with hq' | rfl
      · rw [(hold q hq').2]
        exact h.length q (hsub q hq')
      · rw [hflat, hlen]
        exact h.length r' hlive
    · rcases hcases q hq with hq' | rfl
      · rw [(hold q hq').1, (hold q hq').2]
        exact h.live q (hsub q hq')
      · rw [hflat]
        exact hnew
    · rcases hcases q hq with hq' | rfl
      · rw [(hold q hq').1]
        exact h.belong q (hsub q hq')
      · exact hbelong
    · rw [hfor]
      exact h.lockedFor q (hsublocked q (hlocked ▸ hq))
    · rcases hhanded e he with he' | hok
      · rw [HandedOk, hother _ fun heq => hnot (heq ▸ List.mem_map_of_mem he')]
        exact h.handed e he'
      · exact hok

theorem Inv.pass (hP : P.Kept Ok) (h : Inv P numPackets numFragSpecs s t) {p : ℕ}
    {f : LowpanReceivedFrame} (hfor : s.lockedFor p = some f) (hok : s.PassOk Ok (.pass p)) :
    Inv P numPackets numFragSpecs (s.passFrame p f) (t.passFrame f.frame f.hdrs (some p)).2 := by
  obtain ⟨hans, hrep⟩ := LowpanDefragGlobalState.passFrame_refines h.represents h.partition f.frame
    f.hdrs (some p)
  have hpart := DefragLists.partition_passFrame h.partition f.frame f.hdrs (some p)
  have hlist := h.represents.lockedList_eq h.partition
  rcases DefragLists.unlock_cases (t := t) (some p) with ⟨hu, hnot⟩ |
    ⟨r, t₀, hu, hr, hid, hperm, ht₀⟩
  · have hpass : t.passFrame f.frame f.hdrs (some p) = (none, t) := by
      rw [DefragLists.passFrame, hu]
    have hp : p ∉ s.state.lockedList := by
      rw [hlist]
      rintro hmem
      obtain ⟨r, hr, rfl⟩ := List.mem_map.mp hmem
      exact hnot r hr rfl
    rw [hpass] at hans hrep hpart ⊢
    refine h.frame hP hrep hpart ?_ ?_ le_rfl (fun r hr => Or.inl ⟨hr, rfl⟩) h.lockedFor
    · simp only [LowpanDefragSession.passFrame, hans, Option.map_none, Option.toList_none,
        List.nil_append]
    · funext k
      simp only [LowpanDefragSession.passFrame, if_neg hp, reduceCtorEq, false_and, if_false]
  · obtain rfl : r.id = p := Option.some.inj hid
    have hlive : r ∈ t.live [] := by simp [DefragLists.live, hr]
    have hpacket : (s.state.packets r.id).packet = some r.packet :=
      (congrArg LowpanDefragPacketState.packet (h.represents.live r hlive).packet)
    have hlocked : r.id ∈ s.state.lockedList := by
      rw [hlist]
      exact List.mem_map_of_mem hr
    obtain ⟨g, hg, hbelongs⟩ := h.lockedFor r hr
    obtain rfl : f = g := Option.some.inj (hfor.symm.trans hg)
    have hsize := hbelongs.2
    have hbelong : ∀ g ∈ f :: s.accepted r.packet, g.BelongsTo r :=
      List.forall_mem_cons.mpr ⟨hbelongs, h.belong r hlive⟩
    obtain ⟨hother, hfreed, -⟩ := (h.partition.unlock hu).hand_packet
    obtain ⟨hlen, hlo, hhi⟩ := h.length r hlive
    have hipv6₀ : t₀.ipv6 = t.ipv6 := by rw [ht₀]
    have hflat : (t₀.ipv6.packets r.packet).flat = s.flat r.packet := by
      rw [hipv6₀, flat, h.represents.ipv6]
    have hacc : ∀ k, k ≠ r.packet → (s.passFrame r.id f).accepted k = s.accepted k := by
      intro k hk
      simp only [LowpanDefragSession.passFrame, if_pos hlocked, hpacket, Option.some.injEq]
      rw [if_neg fun hand => hk hand.1.symm]
    have hstate := hrep.ipv6
    rcases DefragLists.passFrame_cases f.frame f.hdrs hu with
      ⟨-, free, specs, hpass⟩ | ⟨len, identical, hc, hm, hcases⟩
    · rw [hpass] at hans hrep hpart hstate ⊢
      have hsublocked : ∀ q ∈ t₀.locked, q ∈ t.locked := fun q hq =>
        hperm.mem_iff.mp (List.mem_cons_of_mem _ hq)
      refine h.frame hP hrep hpart ?_ ?_ (by rw [← hipv6₀]; exact le_rfl)
        (fun q hq => Or.inl ⟨?_, ?_⟩) fun q hq => h.lockedFor q (hsublocked q hq)
      · simp only [LowpanDefragSession.passFrame, hans, Option.map_none, Option.toList_none,
          List.nil_append]
      · funext k
        by_cases hk : k = r.packet
        · subst hk
          have hgone : r.packet ∈ (lowpanDefragmenterPassFrameWithIpv6PacketFragment s.state f.frame
              f.hdrs (some r.id)).2.ipv6.freed := by
            rw [hstate]
            exact List.mem_cons_self
          simp only [LowpanDefragSession.passFrame]
          rw [if_neg fun hand => hand.2 hgone]
        · exact hacc k hk
      · rw [ht₀] at hq
        simp only [DefragLists.live, List.append_nil, List.mem_append] at hq ⊢
        exact hq.imp_right (hsublocked q)
      · dsimp only [Ipv6PacketHeap.free, Ipv6PacketHeap.write]
        rw [hipv6₀]
        exact Function.update_of_ne (hother q hq) _ _
    · obtain ⟨hnew, hnewlen⟩ := hP.of_copied
        (show P (s.accepted r.packet) _ _ by rw [hflat]; exact h.live r hlive)
        (by
          rw [hflat, ← h.represents.fragEntries_eq h.partition hlive]
          exact hok f r.packet hfor hlocked hpacket)
        (by rw [hflat]; omega) (by rw [hflat, LowpanReceivedFrame.size, hsize, hlen]) hc _ hm
      rw [hflat] at hnewlen
      have haccepted : (t.passFrame f.frame f.hdrs (some r.id)).2.ipv6.freed = t₀.ipv6.freed →
          (s.passFrame r.id f).accepted r.packet = f :: s.accepted r.packet := by
        intro heq
        have hfree : r.packet ∉ (lowpanDefragmenterPassFrameWithIpv6PacketFragment s.state f.frame
            f.hdrs (some r.id)).2.ipv6.freed := by
          rw [hstate, heq]
          exact hfreed
        simp only [LowpanDefragSession.passFrame]
        rw [if_pos ⟨by rw [if_pos hlocked, hpacket], hfree⟩]
      rcases hcases with ⟨hcomplete, free, specs, hpass⟩ | ⟨hcomplete, specs, hpass⟩
      · rw [hpass] at hans hrep hpart hstate haccepted ⊢
        have hacc' := haccepted rfl
        have hhanded : (s.passFrame r.id f).handed =
            ⟨r.packet, f.size, (lowpanDefragmenterCopyFragment f.frame f.hdrs
              (t₀.ipv6.packets r.packet) (DefragLists.firstFragSize r)).2⟩ :: s.handed := by
          simp only [LowpanDefragSession.passFrame]
          rw [hans, hstate]
          simp [Ipv6PacketHeap.write]
        refine h.accept hu hrep ?_ rfl rfl rfl (fun q hq => Or.inl hq) hnewlen hacc
          (by rw [hacc']; exact hbelong) (by rw [hacc']; exact hnew) fun e he => ?_
        · rw [hhanded]
          exact hpart
        · rw [hhanded] at he
          rcases List.mem_cons.mp he with rfl | he'
          · refine Or.inr ⟨?_, ?_, ?_, ⟨r.key, fun g hg => ?_⟩, ?_⟩
            · rw [hnewlen, hlen, LowpanReceivedFrame.size, hsize]
            · rw [LowpanReceivedFrame.size, hsize]
              exact hlo
            · rw [LowpanReceivedFrame.size, hsize]
              exact hhi
            · obtain ⟨hkey, hgsize⟩ := hbelong g (hacc' ▸ hg)
              exact ⟨hkey, by rw [LowpanReceivedFrame.size, hgsize, LowpanReceivedFrame.size, hsize]⟩
            · obtain ⟨e, rest, hfrags, hspan⟩ := DefragLists.exists_of_isComplete hcomplete
              rw [hacc']
              exact ⟨e, rest, hspan, hfrags ▸ hnew⟩
          · exact Or.inl he'
      · rw [hpass] at hans hrep hpart hstate haccepted ⊢
        have hacc' := haccepted rfl
        have hhanded : (s.passFrame r.id f).handed = s.handed := by
          simp only [LowpanDefragSession.passFrame, hans, Option.map_none, Option.toList_none,
            List.nil_append]
        refine h.accept hu hrep ?_ rfl rfl rfl (fun q hq => ?_) hnewlen hacc
          (by rw [hacc']; exact hbelong) (by rw [hacc']; exact hnew) fun e he => Or.inl (hhanded ▸ he)
        · rw [hhanded]
          exact hpart
        · rcases List.mem_cons.mp hq with rfl | hq'
          · exact Or.inr rfl
          · exact Or.inl hq'

/-- One step of a session. -/
theorem Inv.step (hP : P.Kept Ok) (h : Inv P numPackets numFragSpecs s t) (event : LowpanDefragEvent)
    (hok : s.PassOk Ok event) : ∃ t', Inv P numPackets numFragSpecs (s.step event) t' := by
  cases event with
  | find f time answers fits => exact ⟨_, h.find hP f time answers fits⟩
  | pass p =>
    cases hfor : s.lockedFor p with
    | none =>
      refine ⟨t, ?_⟩
      rw [LowpanDefragSession.step, hfor]
      exact h
    | some f =>
      have hstep : s.step (.pass p) = s.passFrame p f := by rw [LowpanDefragSession.step, hfor]
      rw [hstep]
      exact ⟨_, h.pass hP hfor hok⟩
  | entire f answers fits =>
    exact ⟨t, h.frame hP h.represents h.partition rfl rfl le_rfl (fun r hr => Or.inl ⟨hr, rfl⟩)
      h.lockedFor⟩
  | unlock p => exact ⟨_, h.unlock hP p⟩
  | timeout time limit => exact ⟨_, h.timeout hP time limit⟩
  | terminate => exact ⟨_, h.terminate hP⟩

/-- A whole session. -/
theorem Inv.run (hP : P.Kept Ok) (events : List LowpanDefragEvent)
    (h : Inv P numPackets numFragSpecs s t) (hok : s.RunOk Ok events) :
    ∃ t', Inv P numPackets numFragSpecs (events.foldl LowpanDefragSession.step s) t' := by
  induction events generalizing s t with
  | nil => exact ⟨t, h⟩
  | cons event events ih =>
    obtain ⟨t', h'⟩ := h.step hP event hok.1
    exact ih h' hok.2

end Steps

theorem inv_start (P : ReassemblyPred) (memory : LowpanDefragGlobalState)
    (pktsArrLen fragSpecArrLen : ℕ) :
    Inv P pktsArrLen fragSpecArrLen (start memory pktsArrLen fragSpecArrLen)
      (DefragLists.start memory pktsArrLen fragSpecArrLen) where
  represents := start_represents memory pktsArrLen fragSpecArrLen
  partition := partition_start memory pktsArrLen fragSpecArrLen
  fresh := fun _ _ => rfl
  length := fun _ hr => absurd hr (by simp [DefragLists.live, DefragLists.start])
  live := fun _ hr => absurd hr (by simp [DefragLists.live, DefragLists.start])
  belong := fun _ hr => absurd hr (by simp [DefragLists.live, DefragLists.start])
  lockedFor := fun _ hr => absurd hr (by simp [DefragLists.start])
  handed := fun _ he => absurd he (by simp [start])

/-- The session after a sequence of events. -/
def run (memory : LowpanDefragGlobalState) (pktsArrLen fragSpecArrLen : ℕ)
    (events : List LowpanDefragEvent) : LowpanDefragSession :=
  events.foldl step (start memory pktsArrLen fragSpecArrLen)

/-- What is kept by accepting a frame holds of every reassembly in every session. -/
theorem run_inv {P : ReassemblyPred} {Ok : LowpanReceivedFrame → ReassemblyPred} (hP : P.Kept Ok)
    (memory : LowpanDefragGlobalState) (pktsArrLen fragSpecArrLen : ℕ)
    (events : List LowpanDefragEvent)
    (hok : (start memory pktsArrLen fragSpecArrLen).RunOk Ok events) :
    ∃ t, Inv P pktsArrLen fragSpecArrLen (run memory pktsArrLen fragSpecArrLen events) t :=
  (inv_start P memory pktsArrLen fragSpecArrLen).run hP events hok

/-- When every frame may be passed. -/
theorem runOk_of_forall {Ok : LowpanReceivedFrame → ReassemblyPred}
    (h : ∀ f frames flat frags, Ok f frames flat frags) (s : LowpanDefragSession)
    (events : List LowpanDefragEvent) : s.RunOk Ok events := by
  induction events generalizing s with
  | nil => exact trivial
  | cons event events ih =>
    refine ⟨?_, ih _⟩
    cases event with
    | pass p => exact fun f k _ _ _ => h f _ _ _
    | _ => exact trivial

end LowpanDefragSession

end Whip6
