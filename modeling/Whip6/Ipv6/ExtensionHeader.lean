import Whip6.Base.IoVecRefinement
import Whip6.Ipv6.IncomingPath

/-!
# Extension headers

The extension headers of a packet stand one behind another in its payload, and each names the header
behind it.  Who processes them keeps a place in the payload, the iterator, and counts the offset in
the packet along with it.  A header is skipped by reading its first two bytes and moving behind the
rest of it.
-/

namespace Whip6

open Lib

/-! ## The chain in the payload -/

/-- Where the extension header at a place of the payload ends. -/
def extensionHeaderEnd (bytes : List UInt8) (p : ℕ) : ℕ := p + 8 + (bytes.getD (p + 1) 0).toNat * 8

/-- Whole extension headers stand between two places of the payload. -/
inductive ExtensionHeaders (bytes : List UInt8) (p : ℕ) : ℕ → Prop
  | nil : ExtensionHeaders bytes p p
  | snoc {q : ℕ} (headers : ExtensionHeaders bytes p q)
    (fits : extensionHeaderEnd bytes q ≤ bytes.length) :
    ExtensionHeaders bytes p (extensionHeaderEnd bytes q)

theorem ExtensionHeaders.le {bytes : List UInt8} {p q : ℕ} (h : ExtensionHeaders bytes p q) :
    p ≤ q := by
  induction h with
  | nil => exact le_refl p
  | snoc _ _ ih =>
    unfold extensionHeaderEnd
    omega

/-- An offset that is counted along with a place, both from given ones on. -/
structure OffsetInStep (offset₀ : UInt16) (p₀ : ℕ) (offset : UInt16) (p : ℕ) : Prop where
  le : p₀ ≤ p
  offset : offset = offset₀ + UInt16.ofNat (p - p₀)

theorem OffsetInStep.refl (offset : UInt16) (p : ℕ) : OffsetInStep offset p offset p :=
  ⟨le_refl p, by simp⟩

theorem OffsetInStep.add {offset₀ offset : UInt16} {p₀ p : ℕ} (h : OffsetInStep offset₀ p₀ offset p)
    (len : UInt16) : OffsetInStep offset₀ p₀ (offset + len) (p + len.toNat) := by
  have hle := h.le
  refine ⟨by omega, ?_⟩
  rw [h.offset, Nat.sub_add_comm hle, UInt16.ofNat_add, UInt16.ofNat_toNat, UInt16.add_assoc]

theorem OffsetInStep.trans {offset₀ offset offset' : UInt16} {p₀ p p' : ℕ}
    (h : OffsetInStep offset₀ p₀ offset p) (h' : OffsetInStep offset p offset' p') :
    OffsetInStep offset₀ p₀ offset' p' := by
  have hle := h.le
  have hle' := h'.le
  have hsum : p' - p₀ = (p - p₀) + (p' - p) := by omega
  refine ⟨hle.trans hle', ?_⟩
  rw [h'.offset, h.offset, hsum, UInt16.ofNat_add, UInt16.add_assoc]

/-- As long as the sum fits the word, the offset is the sum. -/
theorem OffsetInStep.toNat {offset₀ offset : UInt16} {p₀ p : ℕ}
    (h : OffsetInStep offset₀ p₀ offset p) (hfits : offset₀.toNat + (p - p₀) < 2 ^ 16) :
    offset.toNat = offset₀.toNat + (p - p₀) := by
  rw [h.offset, UInt16.toNat_add, UInt16.toNat_ofNat', Nat.add_mod_mod, Nat.mod_eq_of_lt hfits]

/-- The place of a processor that has continued from one place of a payload to another. -/
structure PlaceTracked (bytes : List UInt8) (offset₀ : UInt16) (p₀ : ℕ) (offset : UInt16) (p : ℕ) :
    Prop where
  headers : ExtensionHeaders bytes p₀ p
  offset : OffsetInStep offset₀ p₀ offset p

/-- A whole header more. -/
theorem PlaceTracked.snoc {bytes : List UInt8} {offset₀ offset offset' : UInt16} {p₀ p : ℕ}
    (h : PlaceTracked bytes offset₀ p₀ offset p)
    (hstep : OffsetInStep offset p offset' (extensionHeaderEnd bytes p))
    (hfits : extensionHeaderEnd bytes p ≤ bytes.length) :
    PlaceTracked bytes offset₀ p₀ offset' (extensionHeaderEnd bytes p) :=
  ⟨h.headers.snoc hfits, h.offset.trans hstep⟩

/-- The byte that a header begins with is there when the header is whole. -/
theorem getElem?_of_fits {bytes : List UInt8} {p : ℕ}
    (hfits : extensionHeaderEnd bytes p ≤ bytes.length) : bytes[p]? = some (bytes.getD p 0) := by
  unfold extensionHeaderEnd at hfits
  rw [List.getD_eq_getElem?_getD, List.getElem?_eq_getElem (by omega), Option.getD_some]

/-! ## Moving past a header -/

/-- `hdrLen` -/
def extensionHeaderGenericLength (hdrExtLen : UInt8) : UInt16 := hdrExtLen.toUInt16 <<< 3 + 8

theorem extensionHeaderGenericLength_toNat (hdrExtLen : UInt8) :
    (extensionHeaderGenericLength hdrExtLen).toNat = hdrExtLen.toNat * 8 + 8 := by
  have hlt := hdrExtLen.toNat_lt
  have h3 : (3 : UInt16).toNat % 16 = 3 := rfl
  have h8 : (8 : UInt16).toNat = 8 := rfl
  rw [extensionHeaderGenericLength, UInt16.toNat_add, UInt16.toNat_shiftLeft, Nat.shiftLeft_eq,
    UInt8.toNat_toUInt16, h3, h8]
  omega

section Skipping

variable {l : IovBlist} {it : IovBlistIter}

theorem iovIteratorRead_stays (h : IovIterWithin (iovLens l) it) (buf : List UInt8) (bufLen : ℕ) :
    IovIterWithin (iovLens l) (iovIteratorReadAndMoveForward l it (some buf) bufLen).2.1 :=
  (iovPieces_spec readPiece_meaning h bufLen (buf, 0)).within

theorem iovIteratorIsValid_of_pos_lt (h : iovIterPos (iovLens l) it < l.flatten.length) :
    iovIteratorIsValid it = true := by
  obtain ⟨_ | i, o⟩ := it
  · rw [iovIterPos_none, sum_iovLens] at h
    exact absurd h (lt_irrefl _)
  · rfl

/-- A buffer that is read in full holds the bytes behind the iterator. -/
theorem iovIteratorRead_full (h : IovIterWithin (iovLens l) it) (buf : List UInt8)
    (hroom : iovIterPos (iovLens l) it + buf.length ≤ l.flatten.length) :
    let r := iovIteratorReadAndMoveForward l it (some buf) buf.length
    r.1 = buf.length ∧ iovIterPos (iovLens l) r.2.1 = iovIterPos (iovLens l) it + buf.length ∧
      ∀ i < buf.length, (r.2.2.getD []).getD i 0 =
        l.flatten.getD (iovIterPos (iovLens l) it + i) 0 := by
  obtain ⟨hcount, hpos, -, hbuf⟩ := iovIteratorRead_within h buf buf.length
  have hall : (iovIteratorReadAndMoveForward l it (some buf) buf.length).1 = buf.length := by
    omega
  refine ⟨hall, by rw [hpos, hall], fun i hi => ?_⟩
  have hlen : buf.length =
      ((l.flatten.drop (iovIterPos (iovLens l) it)).take buf.length).length := by
    rw [List.length_take, List.length_drop]
    omega
  rw [hbuf, Option.getD_some, splice_all hlen, List.getD_eq_getElem?_getD, List.getElem?_take,
    if_pos hi, List.getElem?_drop, List.getD_eq_getElem?_getD]

/-- A whole header is read and skipped. -/
theorem skip_of_fits (h : IovIterWithin (iovLens l) it)
    (hfits : extensionHeaderEnd l.flatten (iovIterPos (iovLens l) it) ≤ l.flatten.length) :
    ∃ it₁ genericHdr it₂,
      let len := (extensionHeaderGenericLength (genericHdr.getD 1 0)).toNat
      iovIteratorReadAndMoveForward l it (some [0, 0]) 2 = (2, it₁, some genericHdr) ∧
        iovIteratorIsValid it₁ = true ∧ iovIteratorMoveForward l it₁ (len - 2) = (len - 2, it₂) ∧
        genericHdr.getD 0 0 = l.flatten.getD (iovIterPos (iovLens l) it) 0 ∧
        extensionHeaderEnd l.flatten (iovIterPos (iovLens l) it) =
          iovIterPos (iovLens l) it + len ∧
        IovIterWithin (iovLens l) it₂ ∧
        iovIterPos (iovLens l) it₂ = extensionHeaderEnd l.flatten (iovIterPos (iovLens l) it) := by
  have hend : extensionHeaderEnd l.flatten (iovIterPos (iovLens l) it) =
      iovIterPos (iovLens l) it + 8 +
        (l.flatten.getD (iovIterPos (iovLens l) it + 1) 0).toNat * 8 := rfl
  have hroom : iovIterPos (iovLens l) it + 2 ≤ l.flatten.length := by omega
  obtain ⟨hread, hpos, hbytes⟩ := iovIteratorRead_full h [0, 0] hroom
  have hwithin := iovIteratorRead_stays h [0, 0] 2
  obtain ⟨n, it₁, buf, hr⟩ : ∃ n it₁ buf,
      iovIteratorReadAndMoveForward l it (some [0, 0]) 2 = (n, it₁, some buf) :=
    ⟨_, _, _, rfl⟩
  have hlength : ([0, 0] : List UInt8).length = 2 := rfl
  simp only [hlength, hr, Option.getD_some] at hread hpos hbytes hwithin
  subst hread
  have hlen := extensionHeaderGenericLength_toNat (buf.getD 1 0)
  rw [hbytes 1 (by decide)] at hlen
  obtain ⟨hcount, hnormal, hmoved⟩ := iovIteratorMoveForward_spec hwithin
    ((extensionHeaderGenericLength (buf.getD 1 0)).toNat - 2)
  rw [← hbytes 1 (by decide)] at hlen hend
  refine ⟨it₁, buf, _, hr, iovIteratorIsValid_of_pos_lt (l := l) (by omega), Prod.ext ?_ rfl,
    hbytes 0 (by decide), by omega, hnormal.within, ?_⟩
  · dsimp only
    omega
  · rw [hmoved, hcount]
    omega

/-- A header that is cut off is not read, or not skipped. -/
theorem skip_of_truncated (h : IovIterWithin (iovLens l) it)
    (hcut : l.flatten.length < extensionHeaderEnd l.flatten (iovIterPos (iovLens l) it)) :
    let r := iovIteratorReadAndMoveForward l it (some [0, 0]) 2
    let len := (extensionHeaderGenericLength ((r.2.2.getD []).getD 1 0)).toNat
    (r.1 ≠ 2 ∨ iovIteratorIsValid r.2.1 = false) ∨
      len - 2 ≠ (iovIteratorMoveForward l r.2.1 (len - 2)).1 := by
  intro r len
  obtain ⟨hcount, hpos⟩ : r.1 = min 2 (l.flatten.length - iovIterPos (iovLens l) it) ∧
      iovIterPos (iovLens l) r.2.1 = iovIterPos (iovLens l) it + r.1 :=
    ⟨(iovIteratorRead_within h [0, 0] 2).1, (iovIteratorRead_within h [0, 0] 2).2.1⟩
  by_cases hread : r.1 = 2
  · right
    have hstays : IovIterWithin (iovLens l) r.2.1 := iovIteratorRead_stays h [0, 0] 2
    have hroom : iovIterPos (iovLens l) it + 2 ≤ l.flatten.length := by
      omega
    obtain ⟨-, -, hbytes⟩ := iovIteratorRead_full h [0, 0] hroom
    have hlen : len = (l.flatten.getD (iovIterPos (iovLens l) it + 1) 0).toNat * 8 + 8 := by
      rw [← hbytes 1 (by decide)]
      exact extensionHeaderGenericLength_toNat _
    obtain ⟨hmoved, -, -⟩ := iovIteratorMoveForward_spec hstays (len - 2)
    have hend : extensionHeaderEnd l.flatten (iovIterPos (iovLens l) it) =
        iovIterPos (iovLens l) it + 8 +
          (l.flatten.getD (iovIterPos (iovLens l) it + 1) 0).toNat * 8 := rfl
    rw [hmoved]
    omega
  · exact Or.inl (Or.inl hread)

end Skipping

/-! ## The skipper -/

/-- The packet has kept its place. -/
structure SamePlace (q q' : Ipv6InPacket) : Prop where
  payloadIter : q'.payloadIter = q.payloadIter
  payloadOffset : q'.payloadOffset = q.payloadOffset
  nextHeaderId : q'.nextHeaderId = q.nextHeaderId

/-- The headers of a packet that were skipped one after another, each of them with success. -/
inductive Skips (payload : IovBlist) (inPacket : Ipv6InPacket) : Ipv6InPacket → Prop
  | nil : Skips payload inPacket inPacket
  | snoc {q q' : Ipv6InPacket} (run : Skips payload inPacket q)
    (success : (Ipv6IncomingPath.skipHeader payload q).2 = SUCCESS)
    (same : SamePlace (Ipv6IncomingPath.skipHeader payload q).1 q') : Skips payload inPacket q'

/-- A whole header is skipped; otherwise there is nothing more to process of the packet. -/
theorem skipHeader_spec {payload : IovBlist} {q : Ipv6InPacket}
    (h : IovIterWithin (iovLens payload) q.payloadIter) :
    let p := iovIterPos (iovLens payload) q.payloadIter
    let r := Ipv6IncomingPath.skipHeader payload q
    if extensionHeaderEnd payload.flatten p ≤ payload.flatten.length then
      r.2 = SUCCESS ∧ IovIterWithin (iovLens payload) r.1.payloadIter ∧
        iovIterPos (iovLens payload) r.1.payloadIter = extensionHeaderEnd payload.flatten p ∧
        r.1.nextHeaderId = payload.flatten.getD p 0 ∧
        OffsetInStep q.payloadOffset p r.1.payloadOffset (extensionHeaderEnd payload.flatten p)
    else r.2 = EINVAL ∧ r.1.processingDone = true := by
  intro p r
  split_ifs with hfits
  · obtain ⟨it₁, hdrBuf, it₂, hread, hvalid, hmove, hnext, hend, hwithin, hplace⟩ :=
      skip_of_fits h hfits
    have hr : r = ({ q with
        payloadIter := it₂
        nextHeaderId := hdrBuf.getD 0 0
        payloadOffset := q.payloadOffset + extensionHeaderGenericLength (hdrBuf.getD 1 0) },
        SUCCESS) := by
      unfold extensionHeaderGenericLength at hmove
      change Ipv6IncomingPath.skipHeader payload q = _
      unfold Ipv6IncomingPath.skipHeader
      simp only [hread, hvalid, Option.getD_some, ne_eq, not_true_eq_false, Bool.true_eq_false,
        or_self, if_false, hmove]
      rfl
    rw [hr]
    refine ⟨rfl, hwithin, hplace, hnext, ?_⟩
    have hplace' : extensionHeaderEnd payload.flatten p =
        p + (extensionHeaderGenericLength (hdrBuf.getD 1 0)).toNat := hend
    rw [hplace']
    exact (OffsetInStep.refl q.payloadOffset p).add _
  · have hcut := skip_of_truncated h (not_le.mp hfits)
    unfold r Ipv6IncomingPath.skipHeader
    dsimp only
    split_ifs with hread hmoved
    · exact ⟨rfl, rfl⟩
    · exact ⟨rfl, rfl⟩
    · exact absurd hcut (not_or.mpr ⟨hread, hmoved⟩)

theorem Skips.tracked {payload : IovBlist} {start q : Ipv6InPacket}
    (h : IovIterWithin (iovLens payload) start.payloadIter) (hrun : Skips payload start q) :
    IovIterWithin (iovLens payload) q.payloadIter ∧
      PlaceTracked payload.flatten start.payloadOffset
        (iovIterPos (iovLens payload) start.payloadIter) q.payloadOffset
        (iovIterPos (iovLens payload) q.payloadIter) := by
  induction hrun with
  | nil => exact ⟨h, .nil, OffsetInStep.refl _ _⟩
  | @snoc q q' run hsuccess hsame ih =>
    obtain ⟨hwithin, htracked⟩ := ih
    have hspec := skipHeader_spec hwithin
    dsimp only at hspec
    rw [hsame.payloadIter, hsame.payloadOffset]
    split_ifs at hspec with hfits
    · obtain ⟨-, hwithin', hplace, -, hstep⟩ := hspec
      rw [hplace]
      exact ⟨hwithin', htracked.snoc hstep hfits⟩
    · rw [hspec.1] at hsuccess
      exact absurd hsuccess (by decide)

/-- The task of the skipper: the packet goes on behind a whole header, and is finished with an error
and freed when its header is cut off. -/
theorem skipHeaderIfPossibleTask_spec {path : Ipv6IncomingPath} {p : ℕ}
    (hptr : path.inPacketPtr = some p) (hqueued : p ∈ path.processedPacketQueue) :
    let q := path.inPacket p
    let skipped := Ipv6IncomingPath.skipHeader (path.payload q.packet) q
    let r := path.skipHeaderIfPossibleTask
    (skipped.2 = SUCCESS → r.2 = [.handlerFinished p .skipper SUCCESS] ∧
        SamePlace skipped.1 (r.1.inPacket p)) ∧
      (skipped.2 = EINVAL → r.2 = [.handlerFinished p .skipper EINVAL,
        .finished p q.ifaceId EINVAL, .freedPacket q.packet, .freedState p]) := by
  intro q skipped r
  obtain ⟨hpacket, hiface⟩ : skipped.1.packet = q.packet ∧ skipped.1.ifaceId = q.ifaceId := by
    unfold skipped Ipv6IncomingPath.skipHeader
    dsimp only
    split_ifs <;> exact ⟨rfl, rfl⟩
  have hr : r = path.skipHeaderIfPossibleTask := rfl
  unfold Ipv6IncomingPath.skipHeaderIfPossibleTask at hr
  rw [hptr] at hr
  dsimp only at hr
  rw [show Ipv6IncomingPath.skipHeader (path.payload (path.inPacket p).packet) (path.inPacket p) =
    skipped from rfl] at hr
  constructor
  · intro hsuccess
    rw [hr, hsuccess, Ipv6IncomingPath.finishReceivingIPv6Packet, if_pos rfl]
    refine ⟨rfl, ?_⟩
    simp only [Ipv6IncomingPath.setInPacket, Function.update_self]
    exact ⟨rfl, rfl, rfl⟩
  · intro hfail
    have hne : ¬ EINVAL = SUCCESS := by decide
    rw [hr, hfail, Ipv6IncomingPath.finishReceivingIPv6Packet, if_neg hne]
    simp only [Ipv6IncomingPath.setInPacket, if_pos hqueued,
      Ipv6IncomingPath.finishHandlingPacket, Ipv6IncomingPath.finishReceivingAtIface,
      Function.update_self, hpacket, hiface]

/-- What the task of the skipper has to show for a packet that has come from `start` by skipping. -/
structure SkipperTracked (path : Ipv6IncomingPath) (p : ℕ) (start : Ipv6InPacket) : Prop where
  whole :
    let q := path.inPacket p
    let payload := path.payload q.packet
    let place := iovIterPos (iovLens payload) q.payloadIter
    let r := path.skipHeaderIfPossibleTask
    let q' := r.1.inPacket p
    let place₀ := iovIterPos (iovLens payload) start.payloadIter
    let place' := iovIterPos (iovLens payload) q'.payloadIter
    extensionHeaderEnd payload.flatten place ≤ payload.flatten.length →
      r.2 = [.handlerFinished p .skipper SUCCESS] ∧
        PlaceTracked payload.flatten start.payloadOffset place₀ q'.payloadOffset place' ∧
        payload.flatten[place]? = some q'.nextHeaderId ∧
        (start.payloadOffset.toNat + (place' - place₀) < 2 ^ 16 →
          q'.payloadOffset.toNat = start.payloadOffset.toNat + (place' - place₀))
  truncated :
    let q := path.inPacket p
    let payload := path.payload q.packet
    payload.flatten.length <
        extensionHeaderEnd payload.flatten (iovIterPos (iovLens payload) q.payloadIter) →
      path.skipHeaderIfPossibleTask.2 = [.handlerFinished p .skipper EINVAL,
        .finished p q.ifaceId EINVAL, .freedPacket q.packet, .freedState p]

theorem skipperTracked {path : Ipv6IncomingPath} {p : ℕ} {start : Ipv6InPacket}
    (hptr : path.inPacketPtr = some p) (hqueued : p ∈ path.processedPacketQueue)
    (h : IovIterWithin (iovLens (path.payload (path.inPacket p).packet)) start.payloadIter)
    (hrun : Skips (path.payload (path.inPacket p).packet) start (path.inPacket p)) :
    SkipperTracked path p start := by
  obtain ⟨hwithin, htracked⟩ := hrun.tracked h
  obtain ⟨hsuccess, hfail⟩ := skipHeaderIfPossibleTask_spec hptr hqueued
  have hspec := skipHeader_spec hwithin
  constructor
  · intro q payload place r q' place₀ place' hfits
    rw [if_pos hfits] at hspec
    obtain ⟨hstatus, -, hplace, hnext, hstep⟩ := hspec
    obtain ⟨hacts, hsame⟩ := hsuccess hstatus
    have hplace' : place' = extensionHeaderEnd payload.flatten place := by
      change iovIterPos (iovLens payload) q'.payloadIter = _
      rw [hsame.payloadIter]
      exact hplace
    have htracked' : PlaceTracked payload.flatten start.payloadOffset place₀ q'.payloadOffset
        place' := by
      rw [hplace', hsame.payloadOffset]
      exact htracked.snoc hstep hfits
    refine ⟨hacts, htracked', ?_, htracked'.offset.toNat⟩
    rw [hsame.nextHeaderId, hnext]
    exact getElem?_of_fits hfits
  · intro q payload hcut
    rw [if_neg (not_le.mpr hcut)] at hspec
    exact hfail hspec.1

end Whip6
