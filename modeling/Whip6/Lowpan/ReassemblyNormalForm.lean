import Whip6.Lowpan.DeliveryLaw
import Whip6.Lowpan.ReassemblySoundness

/-!
# The normal form of reassemblies

As long as no fragment overruns a recorded interval that it starts behind, the specifications of
every live packet are sorted, disjoint and apart from one another, and end within the datagram.  For
fragments that are disjoint or repeated they are the maximal runs of what arrived, and the packet is
handed up when that is the whole datagram (`lowpanDefragmenter_normalForm`).
-/

namespace Whip6

open Lib

/-! ## Normal form -/

/-- The specifications are in normal form, and nothing reaches beyond the datagram. -/
def InNormalForm : ReassemblyPred := fun frames flat frags =>
  FragsNormal frags ∧ (∀ e ∈ frags, e.span.stop ≤ flat.length) ∧
    ∀ f ∈ frames, f.span.stop ≤ flat.length

/-- A fragment carries the bytes that the packet has at its offset already, starts where a recorded
interval ends, contains the next recorded interval and reaches the one behind that. -/
def RepeatsAndOverruns (f : LowpanReceivedFrame) : ReassemblyPred := fun _ flat frags =>
  0 < f.offset ∧ StandsAt flat f.offset f.bytes ∧
    Overruns frags f.hdrs.frag.offset (UInt16.ofNat f.bytes.length)

/-- Not that. -/
def NoOverrun (f : LowpanReceivedFrame) : ReassemblyPred := fun frames flat frags =>
  ¬ RepeatsAndOverruns f frames flat frags

theorem LowpanReceivedFrame.newSpan_eq (f : LowpanReceivedFrame) :
    newSpan f.hdrs.frag.offset (UInt16.ofNat f.bytes.length) = f.span := by
  rw [newSpan, f.toNat_length_bytes]
  rfl

theorem fragsNormal_empty (ptr : FragSpecPtr) : FragsNormal [⟨ptr, 0, 0⟩] :=
  FragsNormal.singleton rfl

/-- When the packet has something at its start, the first specification is not empty; when the new
fragment is at the start and overruns something, the first specification is empty. -/
theorem FragsNormal.not_overruns_zero {frags : List FragEntry} (h : FragsNormal frags)
    {len : UInt16} (hfirst : 0 < ((frags.head?.map FragEntry.size).getD 0).toNat) :
    ¬ Overruns frags 0 len := by
  rintro ⟨before, f, n, n', behind, rfl, hstop, -, -⟩
  have hf : f.span.stop = 0 := hstop.symm
  cases before with
  | nil =>
    simp only [List.nil_append, List.head?_cons, Option.map_some, Option.getD_some] at hfirst
    rw [FragEntry.span_stop] at hf
    omega
  | cons b before =>
    have hapart := h.apart
    rw [List.cons_append, fragSpans_cons, apart_cons] at hapart
    have hlt := hapart.1 f.span (span_mem_fragSpans (by simp))
    have hle := f.span_start_le
    omega

theorem inNormalForm_kept : InNormalForm.Kept NoOverrun where
  empty := by
    intro flat ptr _ _
    refine ⟨fragsNormal_empty ptr, fun e he => ?_, fun f hf => absurd hf List.not_mem_nil⟩
    rw [List.mem_singleton.mp he]
    exact Nat.zero_le _
  accept := by
    intro frames flat frags free f identical ⟨hnormal, hfrags, hframes⟩ hno hlt _ hpos hstop hid hm
    have hbound : flat.length < 0x8000 := Nat.lt_trans hlt (by decide)
    have hnew := f.newSpan_eq
    refine ⟨hnormal.merge hbound hfrags (by rw [f.toNat_length_bytes]; exact hpos)
      (by rw [hnew]; exact hstop) (fun hidentical hover => ?_) hm, ?_, ?_⟩
    · obtain ⟨hstands, hfirst⟩ := hid.mp hidentical
      rcases Nat.eq_zero_or_pos f.offset with hzero | hoff
      · have hoff : f.hdrs.frag.offset = 0 := UInt16.toNat_inj.mp hzero
        rw [hoff] at hover
        exact hnormal.not_overruns_zero (UInt16.lt_iff_toNat_lt.mp (hfirst hzero)) hover
      · exact hno ⟨hoff, hstands, hover⟩
    · rw [length_splice]
      have hwithin := mergeFragEntries_within (S := Set.univ) free identical hbound
        (by rw [hnew]; exact hstop) (fun _ _ => trivial)
        (fun e he => ⟨hfrags e he, fun _ _ => trivial⟩)
      exact fun e he => (hwithin e he).1
    · rw [length_splice]
      exact List.forall_mem_cons.mpr ⟨hstop, hframes⟩

/-! ## Fragments that are disjoint or repeated -/

namespace LowpanReceivedFrame

/-- Two fragments are the same, or they have nothing in common. -/
def SameOrApart (f g : LowpanReceivedFrame) : Prop :=
  (f.offset = g.offset ∧ f.bytes = g.bytes) ∨ ∀ x ∈ f.span, x ∉ g.span

end LowpanReceivedFrame

/-- What fragments carry together. -/
def unionOf (frames : List LowpanReceivedFrame) : Set ℕ := {x | ∃ f ∈ frames, x ∈ f.span}

theorem mem_unionOf_cons {f : LowpanReceivedFrame} {frames : List LowpanReceivedFrame} {x : ℕ} :
    x ∈ unionOf (f :: frames) ↔ x ∈ f.span ∨ x ∈ unionOf frames := by
  simp [unionOf]

/-- Fragments that are disjoint or repeated are recorded as they are, and their bytes stay. -/
def RecordsUnion : ReassemblyPred := fun frames flat frags =>
  frames.Pairwise LowpanReceivedFrame.SameOrApart →
    FragsNormal frags ∧ (∀ e ∈ frags, e.span.stop ≤ flat.length) ∧
      covered (fragSpans frags) = unionOf frames ∧
      ∀ f ∈ frames, 0 < f.bytes.length ∧ StandsAt flat f.offset f.bytes

/-- A fragment that has nothing in common with what is recorded overruns nothing. -/
theorem FragsNormal.not_overruns_of_disjoint {frags : List FragEntry} (h : FragsNormal frags)
    {off len : UInt16} (hdisj : ∀ n ∈ newSpan off len, n ∉ covered (fragSpans frags)) :
    ¬ Overruns frags off len := by
  rintro ⟨before, f, n, n', behind, rfl, hstop, hn, -⟩
  have hlt := h.behind_lt n (by simp)
  have hne := h.behind_nonempty n (by simp)
  refine hdisj n.span.start ⟨?_, ?_⟩ ⟨n.span, span_mem_fragSpans (by simp), Nat.le_refl _, hne⟩
  · simp only [newSpan] at hn ⊢
    omega
  · omega

/-- The first specification of a packet that has its first byte is not empty. -/
theorem FragsNormal.first_pos {frags : List FragEntry} (h : FragsNormal frags)
    (hzero : 0 ∈ covered (fragSpans frags)) :
    0 < ((frags.head?.map FragEntry.size).getD 0).toNat := by
  cases frags with
  | nil => exact absurd hzero (by simp)
  | cons first rest =>
    have hstart : first.span.start = 0 := Option.some.inj h.first
    have h' : FragsNormal ([] ++ first :: rest) := h
    rw [fragSpans_cons, mem_covered_cons] at hzero
    rcases hzero with hmem | ⟨s, hs, hlo, -⟩
    · have hstop := hmem.2
      simp only [FragEntry.span_start, FragEntry.span_stop] at hstart hstop
      simp only [List.head?_cons, Option.map_some, Option.getD_some]
      omega
    · obtain ⟨e, he, rfl⟩ := List.mem_map.mp hs
      have := h'.behind_lt e he
      omega

/-- What is known when a fragment arrives that is the same as, or disjoint from, each before it. -/
theorem RecordsUnion.merge {frames : List LowpanReceivedFrame} {flat : List UInt8}
    {frags : List FragEntry} {f : LowpanReceivedFrame} {identical : Bool}
    (h : RecordsUnion frames flat frags) (free : List FragSpecPtr)
    (hpairs : (f :: frames).Pairwise LowpanReceivedFrame.SameOrApart) (hlt : flat.length < 0x800)
    (hpos : 0 < f.bytes.length) (hstop : f.span.stop ≤ flat.length)
    (hid : identical = true ↔ StandsAt flat f.offset f.bytes ∧
      (f.offset = 0 → 0 < (frags.head?.map FragEntry.size).getD 0)) :
    let m := mergeFragEntries frags free f.hdrs.frag.offset (UInt16.ofNat f.bytes.length) identical
    ((f.offset ≠ 0 → f.offset - 1 ∉ unionOf frames → f.span.stop ∉ unionOf frames → free ≠ []) →
      m.1 = true) ∧
    (m.1 = true → FragsNormal m.2.1 ∧ (∀ e ∈ m.2.1, e.span.stop ≤ flat.length) ∧
      covered (fragSpans m.2.1) = unionOf (f :: frames)) := by
  obtain ⟨hnew, hold⟩ := List.pairwise_cons.mp hpairs
  obtain ⟨hnormal, hfrags, hunion, hbytes⟩ := h hold
  have hbound : flat.length < 0x8000 := Nat.lt_trans hlt (by decide)
  have hspan := f.newSpan_eq
  have hlen : 0 < (UInt16.ofNat f.bytes.length).toNat := by
    rw [f.toNat_length_bytes]
    exact hpos
  by_cases hsame : ∃ g ∈ frames, f.offset = g.offset ∧ f.bytes = g.bytes
  · obtain ⟨g, hg, hoffset, hbyteseq⟩ := hsame
    have hsub : ∀ n ∈ f.span, n ∈ unionOf frames := by
      intro n hn
      refine ⟨g, hg, ?_⟩
      rw [LowpanReceivedFrame.span, ← hoffset, ← hbyteseq]
      exact hn
    have hidentical : identical = true := by
      refine hid.mpr ⟨?_, fun hzero => ?_⟩
      · rw [hoffset, hbyteseq]
        exact (hbytes g hg).2
      · refine UInt16.lt_iff_toNat_lt.mpr (hnormal.first_pos ?_)
        rw [hunion]
        exact hsub 0 ⟨hzero.le, by simp only [LowpanReceivedFrame.span]; omega⟩
    have hmerge := hnormal.merge_repeated hbound hfrags hlen
      (by rw [hspan, hunion]; exact hsub) free
    rw [hidentical]
    simp only [hmerge]
    refine ⟨fun _ => trivial, fun _ => ⟨hnormal, hfrags, ?_⟩⟩
    rw [hunion]
    ext x
    rw [mem_unionOf_cons]
    exact ⟨Or.inr, fun hx => hx.elim (hsub x) id⟩
  · have hdisj : ∀ n ∈ f.span, n ∉ covered (fragSpans frags) := by
      intro n hn
      rw [hunion]
      rintro ⟨g, hg, hmem⟩
      rcases hnew g hg with heq | hapart
      · exact hsame ⟨g, hg, heq⟩
      · exact hapart n hn hmem
    rw [← hspan] at hdisj hstop
    obtain ⟨hok, hcovered⟩ := hnormal.merge_disjoint free identical hbound
      hfrags hlen hstop hdisj
    refine ⟨fun hfree => hok ?_, fun hm => ⟨?_, ?_, ?_⟩⟩
    · intro hoff hbefore hbehind
      rw [hunion] at hbefore hbehind
      refine hfree (fun hzero => hoff (UInt16.toNat_inj.mp hzero)) hbefore ?_
      rw [← hspan]
      exact hbehind
    · exact hnormal.merge hbound hfrags hlen hstop
        (fun _ => hnormal.not_overruns_of_disjoint hdisj) hm
    · have hwithin := mergeFragEntries_within (S := Set.univ) free identical hbound
        hstop (fun _ _ => trivial)
        (fun e he => ⟨hfrags e he, fun _ _ => trivial⟩)
      exact fun e he => (hwithin e he).1
    · ext x
      rw [hcovered hm, hunion, hspan, mem_unionOf_cons, or_comm]

theorem recordsUnion_kept : RecordsUnion.Kept fun _ _ _ _ => True where
  empty := by
    intro flat ptr _ _ _
    refine ⟨fragsNormal_empty ptr, fun e he => ?_, ?_, fun f hf => absurd hf List.not_mem_nil⟩
    · rw [List.mem_singleton.mp he]
      exact Nat.zero_le _
    · ext x
      simp [mem_covered, unionOf, Span.mem_def]
  accept := by
    intro frames flat frags free f identical h _ hlt _ hpos hstop hid hm hpairs
    obtain ⟨-, hmerge⟩ := h.merge free hpairs hlt hpos hstop hid
    obtain ⟨hnormal, hfrags, hunion⟩ := hmerge hm
    obtain ⟨hnew, hold⟩ := List.pairwise_cons.mp hpairs
    obtain ⟨-, -, -, hbytes⟩ := h hold
    refine ⟨hnormal, by rw [length_splice]; exact hfrags, hunion, List.forall_mem_cons.mpr
      ⟨⟨hpos, standsAt_splice hstop⟩, fun g hg => ⟨(hbytes g hg).1, ?_⟩⟩⟩
    rcases hnew g hg with ⟨hoffset, hbyteseq⟩ | hapart
    · rw [← hoffset, ← hbyteseq]
      exact standsAt_splice hstop
    · refine (hbytes g hg).2.splice ?_
      by_contra hlap
      refine hapart (max f.offset g.offset) ?_ ?_
      all_goals
        have hgpos := (hbytes g hg).1
        simp only [Span.mem_def, LowpanReceivedFrame.span]
        omega

/-- What is recorded is the whole datagram exactly when the first specification is. -/
theorem FragsNormal.isComplete_iff {frags : List FragEntry} (h : FragsNormal frags) {size : UInt16}
    (hfrags : ∀ e ∈ frags, e.span.stop ≤ size.toNat) :
    DefragLists.isComplete frags size = true ↔ covered (fragSpans frags) = Set.Iio size.toNat := by
  cases frags with
  | nil => exact absurd h.first (by simp)
  | cons first rest =>
    have hstart : first.span.start = 0 := Option.some.inj h.first
    have h' : FragsNormal ([] ++ first :: rest) := h
    have hcomplete : DefragLists.isComplete (first :: rest) size = true ↔
        first.span.stop = size.toNat := by
      simp only [DefragLists.isComplete, Bool.and_eq_true, beq_iff_eq, FragEntry.span_start,
        FragEntry.span_stop] at hstart ⊢
      rw [hstart, Nat.zero_add, UInt16.toNat_inj]
      exact and_iff_right (UInt16.toNat_inj.mp hstart)
    rw [hcomplete]
    constructor
    · intro hstop
      ext x
      refine ⟨?_, fun hx => ?_⟩
      · rintro ⟨s, hs, -, hlt⟩
        obtain ⟨e, he, rfl⟩ := List.mem_map.mp hs
        exact Nat.lt_of_lt_of_le hlt (hfrags e he)
      · exact ⟨first.span, span_mem_fragSpans List.mem_cons_self, hstart.le.trans (Nat.zero_le x),
          hstop ▸ hx⟩
    · intro hall
      have hwf : ∀ s ∈ fragSpans (first :: rest), s.start ≤ s.stop :=
        forall_mem_fragSpans.mpr fun f _ => f.span_start_le
      have hgap := h.apart.stop_not_mem hwf (span_mem_fragSpans List.mem_cons_self)
      rw [hall, Set.mem_Iio, Nat.not_lt] at hgap
      exact Nat.le_antisymm (hfrags first List.mem_cons_self) hgap

namespace LowpanDefragSession

/-- The specifications of a packet state, with the IPv6 packet `k`: the first one starts at zero,
each one starts behind the end of those before it, with a gap, all but the first are nonempty, all end
within the datagram, and no sum of an offset and a length, or of two lengths, wraps around. -/
structure SpecsNormal (s : LowpanDefragSession) (p k : ℕ) : Prop where
  first : (s.state.fragEntries p).head?.map FragEntry.offset = some 0
  apart : (s.state.fragEntries p).Pairwise fun e e' =>
    e.offset.toNat + e.size.toNat < e'.offset.toNat
  nonempty : ∀ e ∈ (s.state.fragEntries p).tail, 0 < e.size
  within : ∀ e ∈ s.state.fragEntries p,
    e.offset.toNat + e.size.toNat ≤ (s.state.packets p).totalSize.toNat
  noWrap : ∀ e ∈ s.state.fragEntries p,
    (e.offset + e.size).toNat = e.offset.toNat + e.size.toNat ∧
    (∀ e' ∈ s.state.fragEntries p, (e.size + e'.size).toNat = e.size.toNat + e'.size.toNat) ∧
    ∀ f ∈ s.accepted k,
      (f.hdrs.frag.offset + UInt16.ofNat f.bytes.length).toNat = f.offset + f.bytes.length ∧
      (e.size + UInt16.ofNat f.bytes.length).toNat = e.size.toNat + f.bytes.length

section Live

variable {P : ReassemblyPred} {numPackets numFragSpecs : ℕ} {s : LowpanDefragSession}
  {t : DefragLists}

/-- A packet state on one of the lists holds a live reassembly. -/
theorem Inv.exists_live (h : Inv P numPackets numFragSpecs s t) {p : ℕ}
    (hp : p ∈ s.state.currentList ++ s.state.lockedList) :
    ∃ r ∈ t.live [], r.id = p ∧ s.state.fragEntries p = r.frags ∧
      (s.state.packets p).packet = some r.packet ∧ (s.state.packets p).totalSize = r.totalSize ∧
      (s.state.packets p).key = r.key := by
  rw [h.represents.currentList_eq h.partition, h.represents.lockedList_eq h.partition,
    ← List.map_append] at hp
  obtain ⟨r, hr, rfl⟩ := List.mem_map.mp hp
  have hlive : r ∈ t.live [] := by simpa [DefragLists.live] using hr
  have hpacket := (h.represents.live r hlive).packet
  refine ⟨r, hlive, rfl, h.represents.fragEntries_eq h.partition hlive, ?_, ?_, ?_⟩
  all_goals rw [hpacket]

theorem Inv.specsNormal (h : Inv InNormalForm numPackets numFragSpecs s t) {p : ℕ}
    (hp : p ∈ s.state.currentList ++ s.state.lockedList) :
    ∃ k, (s.state.packets p).packet = some k ∧ s.SpecsNormal p k := by
  obtain ⟨r, hr, -, hfrags, hpacket, hsize, -⟩ := h.exists_live hp
  obtain ⟨hlen, -, hlt⟩ := h.length r hr
  obtain ⟨hnormal, hwithin, hframes⟩ := h.live r hr
  rw [hlen] at hwithin hframes
  have hsum : ∀ a b : UInt16, a.toNat < 0x800 → b.toNat < 0x800 →
      (a + b).toNat = a.toNat + b.toNat := by
    intro a b ha hb
    rw [UInt16.toNat_add, Nat.mod_eq_of_lt (by omega)]
  have hbits : ∀ e ∈ r.frags, e.offset.toNat < 0x800 ∧ e.size.toNat < 0x800 := by
    intro e he
    have := hwithin e he
    rw [FragEntry.span_stop] at this
    omega
  have hframebits : ∀ f ∈ s.accepted r.packet,
      f.hdrs.frag.offset.toNat < 0x800 ∧ (UInt16.ofNat f.bytes.length).toNat < 0x800 := by
    intro f hf
    have := hframes f hf
    have hlenb := f.length_bytes_lt
    simp only [LowpanReceivedFrame.span, LowpanReceivedFrame.offset] at this
    rw [f.toNat_length_bytes]
    omega
  refine ⟨r.packet, hpacket, ?_, ?_, ?_, ?_, ?_⟩
  all_goals rw [hfrags]
  · have hfirst := hnormal.first
    cases hcons : r.frags with
    | nil => exact absurd hfirst (by simp [hcons])
    | cons f rest =>
      rw [hcons, List.head?_cons, Option.map_some, Option.some.injEq] at hfirst
      rw [List.head?_cons, Option.map_some]
      exact congrArg some (UInt16.toNat_inj.mp hfirst)
  · exact (List.pairwise_map.mp hnormal.apart)
  · intro e he
    cases hcons : r.frags with
    | nil => exact absurd he (by simp [hcons])
    | cons f rest =>
      rw [hcons] at he hnormal
      have h' : FragsNormal ([] ++ f :: rest) := hnormal
      have hne := h'.behind_nonempty e he
      rw [FragEntry.span_start, FragEntry.span_stop] at hne
      exact UInt16.lt_iff_toNat_lt.mpr (by simpa using hne)
  · rw [hsize]
    exact hwithin
  · intro e he
    refine ⟨hsum _ _ (hbits e he).1 (hbits e he).2, fun e' he' =>
      hsum _ _ (hbits e he).2 (hbits e' he').2, fun f hf => ⟨?_, ?_⟩⟩
    · rw [hsum _ _ (hframebits f hf).1 (hframebits f hf).2, f.toNat_length_bytes]
      rfl
    · rw [hsum _ _ (hbits e he).2 (hframebits f hf).2, f.toNat_length_bytes]

/-- For fragments that are disjoint or repeated, the specifications are the maximal runs of what
arrived. -/
theorem Inv.isRun_iff (h : Inv RecordsUnion numPackets numFragSpecs s t) {p k : ℕ}
    (hp : p ∈ s.state.currentList ++ s.state.lockedList) (hk : (s.state.packets p).packet = some k)
    (hpairs : (s.accepted k).Pairwise LowpanReceivedFrame.SameOrApart) (run : Span) :
    IsRun (unionOf (s.accepted k)) run ↔
      run ∈ fragSpans (s.state.fragEntries p) ∧ run.start < run.stop := by
  obtain ⟨r, hr, -, hfrags, hpacket, -, -⟩ := h.exists_live hp
  obtain rfl : r.packet = k := Option.some.inj (hpacket.symm.trans hk)
  obtain ⟨hnormal, -, hunion, -⟩ := h.live r hr hpairs
  rw [hfrags, ← hunion]
  exact isRun_covered_iff hnormal.apart (forall_mem_fragSpans.mpr fun f _ => f.span_start_le)

/-- A frame whose fragment can be copied and merged is accepted. -/
theorem Inv.pass_accepted (h : Inv P numPackets numFragSpecs s t) {r : Reassembly}
    (hr : r ∈ t.locked) {f : LowpanReceivedFrame} {len : ℕ} {identical : Bool}
    (hcopied : (lowpanDefragmenterCopyFragment f.frame f.hdrs (s.state.ipv6.packets r.packet)
      (s.state.fragSpecs (.first r.id)).size).1 = some (len, identical))
    (hm : (mergeFragEntries (s.state.fragEntries r.id) s.state.freeFragSpecList f.hdrs.frag.offset
      (UInt16.ofNat len) identical).1 = true) :
    (s.passFrame r.id f).accepted r.packet = f :: s.accepted r.packet := by
  obtain ⟨-, hrep⟩ := LowpanDefragGlobalState.passFrame_refines h.represents h.partition f.frame
    f.hdrs (some r.id)
  have hlive : r ∈ t.live [] := by simp [DefragLists.live, hr]
  rcases DefragLists.unlock_cases (t := t) (some r.id) with ⟨hu, hnot⟩ |
    ⟨q, t₀, hu, hq, hid, -, ht₀⟩
  · exact absurd rfl (hnot r hr)
  · obtain rfl : q = r := h.partition.eq_of_id_eq (by simp [DefragLists.live, hq]) hlive
      (Option.some.inj hid)
    have hholds := h.represents.live q hlive
    have hpacket : (s.state.packets q.id).packet = some q.packet :=
      congrArg LowpanDefragPacketState.packet hholds.packet
    have hlocked : q.id ∈ s.state.lockedList := by
      rw [h.represents.lockedList_eq h.partition]
      exact List.mem_map_of_mem hr
    obtain ⟨-, hfreed, -⟩ := (h.partition.unlock hu).hand_packet
    have hipv6₀ : t₀.ipv6 = s.state.ipv6 := by rw [ht₀, h.represents.ipv6]
    have hspecs₀ : t₀.freeFragSpecs = s.state.freeFragSpecList := by
      rw [ht₀, h.represents.freeFragSpecList_eq h.partition]
    have hcases := DefragLists.passFrame_cases f.frame f.hdrs hu
    rw [hipv6₀, hspecs₀, ← h.represents.fragEntries_eq h.partition hlive, ← hholds.first_size]
      at hcases
    have hkeep : (lowpanDefragmenterPassFrameWithIpv6PacketFragment s.state f.frame f.hdrs
        (some q.id)).2.ipv6.freed = s.state.ipv6.freed := by
      rw [hrep.ipv6]
      rcases hcases with ⟨hfailed, -⟩ | ⟨_, _, -, -, ⟨-, _, _, hpass⟩ | ⟨-, _, hpass⟩⟩
      · rw [hfailed len identical hcopied] at hm
        cases hm
      · rw [hpass]
        rfl
      · rw [hpass]
        rfl
    simp only [passFrame]
    rw [if_pos ⟨by rw [if_pos hlocked, hpacket], by rw [hkeep, ← hipv6₀]; exact hfreed⟩]

/-- A fragment that is the same as, or disjoint from, each before it is accepted when a specification
is free for it, and the packet is handed up exactly when all of the datagram has arrived. -/
theorem Inv.pass_union (h : Inv RecordsUnion numPackets numFragSpecs s t) {p k : ℕ}
    {f : LowpanReceivedFrame} (hfor : s.lockedFor p = some f) (hp : p ∈ s.state.lockedList)
    (hk : (s.state.packets p).packet = some k)
    (hpairs : (f :: s.accepted k).Pairwise LowpanReceivedFrame.SameOrApart)
    (hwf : LowpanFragmentWellFormed f.frame f.hdrs) (hstop : f.span.stop ≤ f.size)
    (hfree : f.offset ≠ 0 → f.offset - 1 ∉ unionOf (s.accepted k) →
      f.span.stop ∉ unionOf (s.accepted k) → s.state.freeFragSpecList ≠ []) :
    (s.passFrame p f).accepted k = f :: s.accepted k ∧
      (unionOf (f :: s.accepted k) = Set.Iio f.size →
        ∃ packet, (s.passFrame p f).handed = ⟨k, f.size, packet⟩ :: s.handed) ∧
      (unionOf (f :: s.accepted k) ≠ Set.Iio f.size →
        (s.passFrame p f).handed = s.handed) := by
  obtain ⟨r, hr, hid, hfrags, hpacket, -, -⟩ := h.exists_live (List.mem_append_right _ hp)
  obtain rfl : r.packet = k := Option.some.inj (hpacket.symm.trans hk)
  subst hid
  have hlocked : r ∈ t.locked := by
    rw [h.represents.lockedList_eq h.partition] at hp
    obtain ⟨q, hq, heq⟩ := List.mem_map.mp hp
    rwa [h.partition.eq_of_id_eq hr (by simp [DefragLists.live, hq]) heq.symm]
  obtain ⟨g, hg, hbelongs⟩ := h.lockedFor r hlocked
  obtain rfl : f = g := Option.some.inj (hfor.symm.trans hg)
  obtain ⟨hlen, -, hlt⟩ := h.length r hr
  have hsize : f.size = (s.flat r.packet).length := by
    rw [hlen, LowpanReceivedFrame.size, hbelongs.2]
  have hfirst := (h.represents.live r hr).first_size
  -- The fragment is copied, and then it is merged.
  obtain ⟨identical, hcopied⟩ := copyFragment_of_wellFormed
    (s.state.ipv6.packets r.packet) (s.state.fragSpecs (.first r.id)).size f.holdsPayload hwf
    (by rw [hsize] at hstop; exact hstop)
  obtain ⟨-, hpos, -, -, hidentical⟩ := copyFragment_some f.holdsPayload hcopied
  rw [hfirst, show (s.state.ipv6.packets r.packet).flat = s.flat r.packet from rfl] at hidentical
  obtain ⟨hok, hmerged⟩ := (h.live r hr).merge s.state.freeFragSpecList hpairs
    (by omega) hpos (hsize ▸ hstop) hidentical
  have hm := hok hfree
  obtain ⟨hnormal, hwithin, hunion⟩ := hmerged hm
  rw [← hfrags] at hm hnormal hwithin hunion
  refine ⟨h.pass_accepted hlocked hcopied hm, ?_⟩
  have hcomplete : s.Completes r.id r.packet f ↔ unionOf (f :: s.accepted r.packet) =
      Set.Iio f.size := by
    rw [← hunion]
    refine Iff.trans ?_ (hnormal.isComplete_iff
      (fun e he => (hwithin e he).trans hsize.ge))
    constructor
    · rintro ⟨len, identical', hc, -, hcomplete⟩
      obtain ⟨rfl, rfl⟩ := Prod.mk.inj (Option.some.inj (hcopied.symm.trans hc))
      exact hcomplete
    · exact fun hcomplete => ⟨_, _, hcopied, hm, hcomplete⟩
  rcases h.pass_handed hfor with ⟨hsame, hnot⟩ | ⟨k, content, -, hk', hcompletes, hhanded, -, -⟩
  · exact ⟨fun hall => absurd (hcomplete.mpr hall) (hnot r.packet hp hpacket), fun _ => hsame⟩
  · obtain rfl : r.packet = k := Option.some.inj (hpacket.symm.trans hk')
    exact ⟨fun _ => ⟨content, hhanded⟩, fun hne => absurd (hcomplete.mp hcompletes) hne⟩

end Live

end LowpanDefragSession

/-- In every session in which no frame both repeats what the packet holds and overruns a recorded
interval, the specifications of every live packet are in normal form.  In every session, for fragments
that are disjoint or repeated, the specifications are the maximal runs of what arrived, such a fragment
is accepted when a specification is free for it, and the packet is handed up at the very step at which
all of the datagram has arrived. -/
theorem lowpanDefragmenter_normalForm (memory : LowpanDefragGlobalState)
    (pktsArrLen fragSpecArrLen : ℕ) (events : List LowpanDefragEvent)
    (hok : (LowpanDefragSession.start memory pktsArrLen fragSpecArrLen).RunOk NoOverrun events) :
    let s := LowpanDefragSession.run memory pktsArrLen fragSpecArrLen events
    (∀ p ∈ s.state.currentList ++ s.state.lockedList,
      ∃ k, (s.state.packets p).packet = some k ∧ s.SpecsNormal p k) ∧
    (∀ p k, p ∈ s.state.currentList ++ s.state.lockedList → (s.state.packets p).packet = some k →
      (s.accepted k).Pairwise LowpanReceivedFrame.SameOrApart → ∀ run : Span,
        IsRun (unionOf (s.accepted k)) run ↔
          run ∈ fragSpans (s.state.fragEntries p) ∧ run.start < run.stop) ∧
    ∀ p k f, s.lockedFor p = some f → p ∈ s.state.lockedList → (s.state.packets p).packet = some k →
      (f :: s.accepted k).Pairwise LowpanReceivedFrame.SameOrApart →
      LowpanFragmentWellFormed f.frame f.hdrs → f.span.stop ≤ f.size →
      (f.offset ≠ 0 → f.offset - 1 ∉ unionOf (s.accepted k) →
        f.span.stop ∉ unionOf (s.accepted k) → s.state.freeFragSpecList ≠ []) →
      let s' := s.step (.pass p)
      s'.accepted k = f :: s.accepted k ∧
        (unionOf (f :: s.accepted k) = Set.Iio f.size →
          ∃ packet, s'.handed = ⟨k, f.size, packet⟩ :: s.handed) ∧
        (unionOf (f :: s.accepted k) ≠ Set.Iio f.size → s'.handed = s.handed) := by
  obtain ⟨t, h⟩ := LowpanDefragSession.run_inv inNormalForm_kept memory pktsArrLen fragSpecArrLen
    events hok
  obtain ⟨t', h'⟩ := LowpanDefragSession.run_inv recordsUnion_kept memory pktsArrLen fragSpecArrLen
    events (LowpanDefragSession.runOk_of_forall (fun _ _ _ _ => trivial) _ _)
  refine ⟨fun p hp => h.specsNormal hp, fun p k hp hk hpairs run => h'.isRun_iff hp hk hpairs run,
    fun p k f hfor hp hk hpairs hwf hstop hfree => ?_⟩
  have hunion := h'.pass_union hfor hp hk hpairs hwf hstop hfree
  dsimp only
  rw [LowpanDefragSession.step, hfor]
  exact hunion

/-! ## A fragment that overruns -/

/-- The headers of a fragment at an offset of a datagram of 48 bytes. -/
def fragmentHeaders (nextOffset : ℕ) (offset : UInt16) : LowpanUnpackedFrameHeaders :=
  { lowpanNoHeaders with
    bitmap := ⟨true, false, false⟩
    nextOffset := nextOffset
    frag := ⟨1, 48, offset⟩ }

/-- The first eight bytes of a datagram of 48 bytes, all of them zero. -/
def firstZeros : LowpanReceivedFrame where
  frame := shortAddrFrame ([0xc0, 48, 0, 1, 0x41] ++ List.replicate 8 0)
  hdrs := lowpanDefragmenterCreateVirtualMeshHeaderIfNecessary
    (shortAddrFrame ([0xc0, 48, 0, 1, 0x41] ++ List.replicate 8 0)) (fragmentHeaders 4 0)
  holdsPayload := by decide
  unpacked := ⟨lowpanNoHeaders, _, by decide, rfl⟩

/-- Eight zeros at the offset 16. -/
def zerosAt16 : LowpanReceivedFrame where
  frame := shortAddrFrame ([0xe0, 48, 0, 1, 2] ++ List.replicate 8 0)
  hdrs := lowpanDefragmenterCreateVirtualMeshHeaderIfNecessary
    (shortAddrFrame ([0xe0, 48, 0, 1, 2] ++ List.replicate 8 0)) (fragmentHeaders 5 16)
  holdsPayload := by decide
  unpacked := ⟨lowpanNoHeaders, _, by decide, rfl⟩

/-- Eight zeros at the offset 32. -/
def zerosAt32 : LowpanReceivedFrame where
  frame := shortAddrFrame ([0xe0, 48, 0, 1, 4] ++ List.replicate 8 0)
  hdrs := lowpanDefragmenterCreateVirtualMeshHeaderIfNecessary
    (shortAddrFrame ([0xe0, 48, 0, 1, 4] ++ List.replicate 8 0)) (fragmentHeaders 5 32)
  holdsPayload := by decide
  unpacked := ⟨lowpanNoHeaders, _, by decide, rfl⟩

/-- Thirty-two zeros at the offset 8. -/
def zerosAt8 : LowpanReceivedFrame where
  frame := shortAddrFrame ([0xe0, 48, 0, 1, 1] ++ List.replicate 32 0)
  hdrs := lowpanDefragmenterCreateVirtualMeshHeaderIfNecessary
    (shortAddrFrame ([0xe0, 48, 0, 1, 1] ++ List.replicate 32 0)) (fragmentHeaders 5 8)
  holdsPayload := by decide
  unpacked := ⟨lowpanNoHeaders, _, by decide, rfl⟩

/-- The answers of the allocators for a datagram of 48 bytes. -/
def zeroAnswers : Ipv6AllocAnswers := ⟨some .zero, [some (List.replicate 8 0)]⟩

theorem zeroAnswers_fit : IovChunksFit zeroAnswers.chunks 8 := ⟨by decide, by decide, trivial⟩

/-- The frames arrive in this order; the last one overruns. -/
def overrunEvents : List LowpanDefragEvent :=
  [.find firstZeros 0 zeroAnswers zeroAnswers_fit, .pass 0,
    .find zerosAt16 0 zeroAnswers zeroAnswers_fit, .pass 0,
    .find zerosAt32 0 zeroAnswers zeroAnswers_fit, .pass 0,
    .find zerosAt8 0 zeroAnswers zeroAnswers_fit, .pass 0]

/-- The first of these frames overruns nothing. -/
theorem lowpanDefragmenter_normalForm_first :
    let s := LowpanDefragSession.run zeroMemory 1 2 (overrunEvents.take 2)
    ∀ p ∈ s.state.currentList ++ s.state.lockedList,
      ∃ k, (s.state.packets p).packet = some k ∧ s.SpecsNormal p k := by
  refine (lowpanDefragmenter_normalForm zeroMemory 1 2 (overrunEvents.take 2)
    ⟨trivial, fun f k hf _ _ => ?_, trivial⟩).1
  obtain rfl : firstZeros = f := Option.some.inj hf
  exact fun hover => absurd hover.1 (by decide)

theorem overrun_fragEntries :
    ((LowpanDefragSession.run zeroMemory 1 2 overrunEvents).state.fragEntries 0).map
      (fun e => (e.offset, e.size)) = [(0, 40), (32, 8)] := by
  decide

/-- The specifications are not always in normal form: here the first one contains the second. -/
theorem normalForm_fails :
    ¬ ∀ (memory : LowpanDefragGlobalState) (pktsArrLen fragSpecArrLen : ℕ)
      (events : List LowpanDefragEvent),
      let s := LowpanDefragSession.run memory pktsArrLen fragSpecArrLen events
      ∀ p ∈ s.state.currentList ++ s.state.lockedList,
        ∃ k, (s.state.packets p).packet = some k ∧ s.SpecsNormal p k := by
  intro h
  obtain ⟨k, -, hnormal⟩ := h zeroMemory 1 2 overrunEvents 0 (by decide)
  have hapart := (List.pairwise_map (f := fun e : FragEntry => (e.offset, e.size))
    (R := fun a b => a.1.toNat + a.2.toNat < b.1.toNat)).mpr hnormal.apart
  rw [overrun_fragEntries] at hapart
  exact absurd hapart (by decide)

end Whip6
