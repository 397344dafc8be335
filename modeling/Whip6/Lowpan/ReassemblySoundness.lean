import Whip6.Lowpan.SessionInvariant

/-!
# Soundness of reassembly

Whatever frames arrive, in any order, every byte of a packet that is handed up was carried at its
offset by a frame that was accepted for that packet, and so was every byte within the intervals that
a live packet has recorded (`lowpanDefragmenter_sound`).
-/

namespace Whip6

open Lib

/-- The offsets at which the bytes of a packet are the ones that one of the frames carries there. -/
def carriedBy (frames : List LowpanReceivedFrame) (flat : List UInt8) : Set ℕ :=
  {i | ∃ f ∈ frames, ∃ b, flat[i]? = some b ∧ f.Carries i b}

/-- Every specification records carried bytes only. -/
def RecordsCarried : ReassemblyPred := fun frames flat frags =>
  ∀ e ∈ frags, e.Within (carriedBy frames flat) flat.length

namespace LowpanReceivedFrame

variable {f : LowpanReceivedFrame} {flat : List UInt8} {i : ℕ}

theorem carries_of_mem_span (hstop : f.span.stop ≤ flat.length) (hi : i ∈ f.span) :
    ∃ b, (splice flat f.offset f.bytes)[i]? = some b ∧ f.Carries i b := by
  obtain ⟨hlo, hhi⟩ := hi
  simp only [span] at hlo hhi hstop
  have hlt : i - f.offset < f.bytes.length := by omega
  refine ⟨f.bytes[i - f.offset], ?_, hlo, List.getElem?_eq_getElem hlt⟩
  rw [getElem?_splice_of_inside hlo hhi (by omega)]
  exact List.getElem?_eq_getElem hlt

theorem getElem?_of_not_mem_span (hi : i ∉ f.span) :
    (splice flat f.offset f.bytes)[i]? = flat[i]? := by
  refine getElem?_splice_of_outside ?_
  simp only [Span.mem_def, span] at hi
  omega

end LowpanReceivedFrame

theorem carriedBy_accept {frames : List LowpanReceivedFrame} {f : LowpanReceivedFrame}
    {flat : List UInt8} (hstop : f.span.stop ≤ flat.length) :
    carriedBy frames flat ⊆ carriedBy (f :: frames) (splice flat f.offset f.bytes) := by
  rintro i ⟨g, hg, b, hb, hcarries⟩
  by_cases hi : i ∈ f.span
  · obtain ⟨b', hb', hcarries'⟩ := f.carries_of_mem_span hstop hi
    exact ⟨f, List.mem_cons_self, b', hb', hcarries'⟩
  · refine ⟨g, List.mem_cons_of_mem _ hg, b, ?_, hcarries⟩
    rw [f.getElem?_of_not_mem_span hi]
    exact hb

theorem recordsCarried_kept : RecordsCarried.Kept fun _ _ _ _ => True where
  empty := by
    intro flat ptr _ _ e he
    rw [List.mem_singleton.mp he]
    exact ⟨Nat.zero_le _, fun n hn => absurd hn.2 (Nat.not_lt_zero n)⟩
  accept := by
    intro frames flat frags free f identical hfrags _ hlt _ _ hstop _ _
    have hnewSpan : newSpan f.hdrs.frag.offset (UInt16.ofNat f.bytes.length) = f.span := by
      rw [newSpan, f.toNat_length_bytes]
      rfl
    rw [RecordsCarried, length_splice]
    refine mergeFragEntries_within _ _ (Nat.lt_trans hlt (by decide)) ?_ ?_ ?_
    · rw [hnewSpan]
      exact hstop
    · rw [hnewSpan]
      intro n hn
      obtain ⟨b, hb, hcarries⟩ := f.carries_of_mem_span hstop hn
      exact ⟨f, List.mem_cons_self, b, hb, hcarries⟩
    · intro e he
      obtain ⟨hle, hmem⟩ := hfrags e he
      exact ⟨hle, fun n hn => carriedBy_accept hstop (hmem n hn)⟩

/-- Every byte that is handed up, and every byte that a live packet has recorded, was carried at its
offset by a frame accepted for that very packet, and all frames accepted for a packet that is handed
up are fragments of one datagram. -/
theorem lowpanDefragmenter_sound (memory : LowpanDefragGlobalState)
    (pktsArrLen fragSpecArrLen : ℕ) (events : List LowpanDefragEvent) :
    let s := LowpanDefragSession.run memory pktsArrLen fragSpecArrLen events
    (∀ e ∈ s.handed, e.packet.flat.length = e.size ∧
      (∃ key, ∀ f ∈ s.accepted e.number, f.key = key ∧ f.size = e.size) ∧
      ∀ i < e.size, ∃ f ∈ s.accepted e.number, ∃ b, e.packet.flat[i]? = some b ∧ f.Carries i b) ∧
    ∀ p ∈ s.state.currentList ++ s.state.lockedList, ∃ k, (s.state.packets p).packet = some k ∧
      (∀ f ∈ s.accepted k, f.key = (s.state.packets p).key ∧
        f.hdrs.frag.size = (s.state.packets p).totalSize) ∧
      ∀ e ∈ s.state.fragEntries p, ∀ i ∈ e.span,
        ∃ f ∈ s.accepted k, ∃ b, (s.flat k)[i]? = some b ∧ f.Carries i b := by
  obtain ⟨t, h⟩ := LowpanDefragSession.run_inv recordsCarried_kept memory pktsArrLen fragSpecArrLen
    events (LowpanDefragSession.runOk_of_forall (fun _ _ _ _ => trivial) _ _)
  refine ⟨fun e he => ?_, fun p hp => ?_⟩
  · obtain ⟨hlen, -, -, hkey, f, rest, hspan, hrecords⟩ := h.handed e he
    refine ⟨hlen, hkey, fun i hi => ?_⟩
    refine (hrecords f List.mem_cons_self).2 i ?_
    rw [hspan]
    exact ⟨Nat.zero_le i, hi⟩
  · obtain ⟨r, hr, rfl⟩ : ∃ r ∈ t.live [], r.id = p := by
      rw [h.represents.currentList_eq h.partition, h.represents.lockedList_eq h.partition,
        ← List.map_append] at hp
      obtain ⟨r, hr, hid⟩ := List.mem_map.mp hp
      exact ⟨r, by simpa [DefragLists.live] using hr, hid⟩
    have hpacket := (h.represents.live r hr).packet
    refine ⟨r.packet, by rw [hpacket], ?_, ?_⟩
    · rw [hpacket]
      exact h.belong r hr
    · rw [h.represents.fragEntries_eq h.partition hr]
      exact fun e he i hi => (h.live r hr e he).2 i hi

end Whip6
