import Whip6.Lowpan.LinkTableInvariant

/-!
# The quality of links

The expected number of transmissions over a link (ETX) is estimated from the beacons that are
received and missed, and from the unicasts that are acknowledged or not.  The new estimate is a
weighted mean of the old one and of what the counters of the link tell.  No estimate is below one
transmission as long as the sum of the counters does not wrap
(`LowpanLink.one_le_etx_reportUnicastCompletion`).
-/

namespace Whip6

open Lib

def WHIP6_MAX_NUM_MISSED_BROADCASTS_BEFORE_LINK_RESET : UInt8 := 10

def WHIP6_MAX_NUM_UNACKED_UNICASTS_BEFORE_LINK_RESET : UInt8 := 30

def WHIP6_MIN_NUM_BROADCASTS_BEFORE_LINK_QUALITY_RECOMPUTATION : UInt8 := 2

def WHIP6_MIN_NUM_UNICASTS_BEFORE_LINK_QUALITY_RECOMPUTATION : UInt8 := 8

def WHIP6_LINK_PRR_EWMA_COEFFICIENT_NUMERATOR : UInt16 := 13

def WHIP6_LINK_PRR_EWMA_COEFFICIENT_DENOMINATOR : UInt16 := 16

def WHIP6_LINK_ETX_EWMA_COEFFICIENT_NUMERATOR : UInt32 := 14

def WHIP6_LINK_ETX_EWMA_COEFFICIENT_DENOMINATOR : UInt32 := 16

def WHIP6_LINK_INITAL_LINK_ETX : UInt16 := WHIP6_ETX_METRIC_ONE * 4 / 2

def lowpanMeshLinkTableComputePrrFromNumMessages (numRecv numTotal : UInt8) : UInt8 :=
  let prr2 := (WHIP6_PRR_METRIC_ONE - WHIP6_PRR_METRIC_ZERO).toUInt16 * numRecv.toUInt16
  (prr2 / numTotal.toUInt16).toUInt8 + WHIP6_PRR_METRIC_ZERO

def lowpanMeshLinkTableIntegratePrrWithEwma (oldPrr newPrr : UInt8) : UInt8 :=
  let oldPrrScaled :=
    (oldPrr - WHIP6_PRR_METRIC_ZERO).toUInt16 * WHIP6_LINK_PRR_EWMA_COEFFICIENT_NUMERATOR
  let newPrrScaled := (newPrr - WHIP6_PRR_METRIC_ZERO).toUInt16 *
    (WHIP6_LINK_PRR_EWMA_COEFFICIENT_DENOMINATOR - WHIP6_LINK_PRR_EWMA_COEFFICIENT_NUMERATOR)
  ((newPrrScaled + oldPrrScaled) / WHIP6_LINK_PRR_EWMA_COEFFICIENT_DENOMINATOR).toUInt8 +
    WHIP6_PRR_METRIC_ZERO

def lowpanMeshLinkTableIntegrateEtxWithEwma (oldEtx newEtx : UInt16) : UInt16 :=
  let oldEtxScaled := oldEtx.toUInt32 * WHIP6_LINK_ETX_EWMA_COEFFICIENT_NUMERATOR
  let newEtxScaled := newEtx.toUInt32 *
    (WHIP6_LINK_ETX_EWMA_COEFFICIENT_DENOMINATOR - WHIP6_LINK_ETX_EWMA_COEFFICIENT_NUMERATOR)
  ((newEtxScaled + oldEtxScaled) / WHIP6_LINK_ETX_EWMA_COEFFICIENT_DENOMINATOR).toUInt16

/-! ## Reports about a link -/

namespace LowpanLink

variable (link : LowpanLink)

def isInit : Bool := link.flags &&& WHIP6_6LOWPAN_LINK_FLAG_INIT != 0

def recomputeBeaconBasedLinkQualityIfNecessary : LowpanLink :=
  let numBeaconsReceived := link.quality.numReceivedBeacons
  let numBeaconsTotal := numBeaconsReceived + link.quality.numMissedBeacons
  if numBeaconsTotal < WHIP6_MIN_NUM_BROADCASTS_BEFORE_LINK_QUALITY_RECOMPUTATION then link
  else
    let link := if link.isInit then
      { link with
        flags := link.flags &&& ~~~WHIP6_6LOWPAN_LINK_FLAG_INIT
        quality := { link.quality with
          etx := WHIP6_LINK_INITAL_LINK_ETX
          inPrr := metricEtxToPrr WHIP6_LINK_INITAL_LINK_ETX } }
      else link
    let inPrr := lowpanMeshLinkTableIntegratePrrWithEwma link.quality.inPrr
      (lowpanMeshLinkTableComputePrrFromNumMessages numBeaconsReceived numBeaconsTotal)
    { link with quality := { link.quality with
      inPrr := inPrr
      etx := lowpanMeshLinkTableIntegrateEtxWithEwma link.quality.etx (metricPrrToEtx inPrr)
      numReceivedBeacons := 0
      numMissedBeacons := 0 } }

/-- The unicasts over a link are too few for an estimate, or the link is being initialised. -/
def tooFewUnicasts : Bool :=
  link.quality.numAckedUnicasts + link.quality.numUnackedUnicasts <
    WHIP6_MIN_NUM_UNICASTS_BEFORE_LINK_QUALITY_RECOMPUTATION || link.isInit

def recomputeAckBasedLinkQualityIfNecessary : LowpanLink :=
  let numAckedUnicasts := link.quality.numAckedUnicasts
  let numTotalUnicasts := numAckedUnicasts + link.quality.numUnackedUnicasts
  if link.tooFewUnicasts then link
  else
    let etx := if link.quality.etx = WHIP6_ETX_METRIC_INFINITE then WHIP6_LINK_INITAL_LINK_ETX
      else link.quality.etx
    if numAckedUnicasts = 0 then
      { link with quality := { link.quality with
        etx := lowpanMeshLinkTableIntegrateEtxWithEwma etx
          ((numTotalUnicasts.toUInt16 + 1) * WHIP6_ETX_METRIC_ONE) } }
    else
      { link with quality := { link.quality with
        numAckedUnicasts := 0
        numUnackedUnicasts := 0
        etx := lowpanMeshLinkTableIntegrateEtxWithEwma etx
          (numTotalUnicasts.toUInt16 * WHIP6_ETX_METRIC_ONE / numAckedUnicasts.toUInt16) } }

/-- A link that was not heard before, or not for long, is initialised. -/
def startInitIfInfinite (seqNo : UInt8) : LowpanLink :=
  if !link.isInit && decide (link.quality.etx ≥ WHIP6_ETX_METRIC_INFINITE) then
    { link with
      flags := link.flags ||| WHIP6_6LOWPAN_LINK_FLAG_INIT
      quality := { link.quality with lastBeaconSeqNo := seqNo - 1 } }
  else link

/-- The counters of the beacons, with one more received; a link over which too many were missed
starts anew. -/
def countBeacon (seqNo : UInt8) : LowpanLink :=
  let numMissedBeacons := seqNo - link.quality.lastBeaconSeqNo - 1
  if numMissedBeacons > WHIP6_MAX_NUM_MISSED_BROADCASTS_BEFORE_LINK_RESET then
    { link with
      flags := link.flags &&& (WHIP6_6LOWPAN_LINK_FLAG_HAS_EXT_ADDR |||
        WHIP6_6LOWPAN_LINK_FLAG_HAS_SHORT_ADDR ||| WHIP6_6LOWPAN_LINK_FLAG_PINNED) |||
          WHIP6_6LOWPAN_LINK_FLAG_INIT
      quality := { lowpanMeshLinkTableResetLinkQuality link.quality with numReceivedBeacons := 1 } }
  else
    { link with quality := { link.quality with
      numReceivedBeacons := link.quality.numReceivedBeacons + 1
      numMissedBeacons := link.quality.numMissedBeacons + numMissedBeacons } }

/-- A link that was used is not reclaimed. -/
def refresh : LowpanLink :=
  { link with flags := (link.flags ||| WHIP6_6LOWPAN_LINK_FLAG_REFRESHED) &&&
    ~~~WHIP6_6LOWPAN_LINK_FLAG_RECLAIMABLE }

def reportBroadcastReception (seqNo : UInt8) : LowpanLink :=
  let link := ((link.startInitIfInfinite seqNo).countBeacon
    seqNo).recomputeBeaconBasedLinkQualityIfNecessary
  { link with quality := { link.quality with lastBeaconSeqNo := seqNo } }.refresh

/-- The counters of the unicasts, with one more. -/
def countUnicast (acked : Bool) : LowpanLink :=
  if acked then
    { link with quality := { link.quality with
      numAckedUnicasts := link.quality.numAckedUnicasts + 1 } }.refresh
  else
    { link with quality := { link.quality with
      numUnackedUnicasts := link.quality.numUnackedUnicasts + 1 } }

/-- So many unicasts were not acknowledged that the link is given up. -/
def tooManyUnacked : Bool :=
  link.quality.numUnackedUnicasts > WHIP6_MAX_NUM_UNACKED_UNICASTS_BEFORE_LINK_RESET

def reportUnicastCompletion (acked : Bool) : LowpanLink :=
  let link := link.countUnicast acked
  if !acked && link.tooManyUnacked then
    { link with quality := { link.quality with
      etx := WHIP6_ETX_METRIC_INFINITE
      numAckedUnicasts := 0
      numUnackedUnicasts := 0 } }
  else link.recomputeAckBasedLinkQualityIfNecessary

end LowpanLink

def lowpanMeshLinkTableReportBroadcastReceptionForExistingLink (table : LowpanLinkTable)
    (index seqNo : UInt8) : LowpanLinkTable :=
  table.setLink index.toNat ((table.linkPoolPtr index.toNat).reportBroadcastReception seqNo)

def lowpanMeshLinkTableReportUnicastCompletionForExistingLink (table : LowpanLinkTable)
    (index : UInt8) (acked : Bool) : LowpanLinkTable :=
  table.setLink index.toNat ((table.linkPoolPtr index.toNat).reportUnicastCompletion acked)

/-! ## What reports leave -/

/-- Two links have the same place: their keys, and what links them to others. -/
structure LowpanLink.SamePlace (link link' : LowpanLink) : Prop extends link.SameKey link' where
  nextAddrIdx : link'.nextAddrIdx = link.nextAddrIdx

/-- Setting flags outside a mask. -/
theorem or_and_of_disjoint {flags bits mask : UInt8} (h : bits &&& mask = 0) :
    (flags ||| bits) &&& mask = flags &&& mask := by
  have hdistrib : (flags ||| bits) &&& mask = flags &&& mask ||| bits &&& mask := by
    apply UInt8.eq_of_toBitVec_eq
    ext i hi
    simp [Bool.and_or_distrib_right]
  rw [hdistrib, h, UInt8.or_zero]

/-- Clearing flags outside a mask. -/
theorem and_and_of_covers {flags bits mask : UInt8} (h : bits &&& mask = mask) :
    (flags &&& bits) &&& mask = flags &&& mask := by
  rw [UInt8.and_assoc, h]

namespace LowpanLink

variable {link link' link'' : LowpanLink}

theorem SamePlace.refl (link : LowpanLink) : link.SamePlace link := ⟨⟨rfl, rfl, rfl⟩, rfl⟩

theorem SamePlace.trans (h : link.SamePlace link') (h' : link'.SamePlace link'') :
    link.SamePlace link'' :=
  ⟨⟨h'.idx.trans h.idx, h'.addr.trans h.addr, h'.flags.trans h.flags⟩,
    h'.nextAddrIdx.trans h.nextAddrIdx⟩

theorem samePlace_refresh : link.SamePlace link.refresh := by
  refine ⟨⟨rfl, rfl, ?_⟩, rfl⟩
  rw [refresh, and_and_of_covers (by decide), or_and_of_disjoint (by decide)]

theorem samePlace_markUnrefreshed : link.SamePlace link.markUnrefreshed := by
  rw [markUnrefreshed]
  split
  · split
    · exact ⟨⟨rfl, rfl, or_and_of_disjoint (by decide)⟩, rfl⟩
    · exact ⟨⟨rfl, rfl, and_and_of_covers (by decide)⟩, rfl⟩
  · exact SamePlace.refl _

theorem samePlace_recomputeBeaconBased :
    link.SamePlace link.recomputeBeaconBasedLinkQualityIfNecessary := by
  rw [recomputeBeaconBasedLinkQualityIfNecessary]
  dsimp only
  split
  · exact SamePlace.refl _
  · split
    · exact ⟨⟨rfl, rfl, and_and_of_covers (by decide)⟩, rfl⟩
    · exact ⟨⟨rfl, rfl, rfl⟩, rfl⟩

theorem samePlace_recomputeAckBased :
    link.SamePlace link.recomputeAckBasedLinkQualityIfNecessary := by
  rw [recomputeAckBasedLinkQualityIfNecessary]
  dsimp only
  split
  · exact SamePlace.refl _
  · split <;> exact ⟨⟨rfl, rfl, rfl⟩, rfl⟩

theorem samePlace_startInitIfInfinite (seqNo : UInt8) :
    link.SamePlace (link.startInitIfInfinite seqNo) := by
  rw [startInitIfInfinite]
  split
  · exact ⟨⟨rfl, rfl, or_and_of_disjoint (by decide)⟩, rfl⟩
  · exact SamePlace.refl _

theorem samePlace_countBeacon (seqNo : UInt8) : link.SamePlace (link.countBeacon seqNo) := by
  rw [countBeacon]
  dsimp only
  split
  · refine ⟨⟨rfl, rfl, ?_⟩, rfl⟩
    rw [or_and_of_disjoint (by decide), and_and_of_covers (by decide)]
  · exact ⟨⟨rfl, rfl, rfl⟩, rfl⟩

theorem samePlace_reportBroadcastReception (seqNo : UInt8) :
    link.SamePlace (link.reportBroadcastReception seqNo) := by
  have hbeacon : link.SamePlace ((link.startInitIfInfinite seqNo).countBeacon
      seqNo).recomputeBeaconBasedLinkQualityIfNecessary :=
    ((samePlace_startInitIfInfinite seqNo).trans (samePlace_countBeacon seqNo)).trans
      samePlace_recomputeBeaconBased
  rw [reportBroadcastReception]
  generalize ((link.startInitIfInfinite seqNo).countBeacon
    seqNo).recomputeBeaconBasedLinkQualityIfNecessary = link' at *
  have hseen : link'.SamePlace { link' with quality := { link'.quality with
      lastBeaconSeqNo := seqNo } } := ⟨⟨rfl, rfl, rfl⟩, rfl⟩
  exact (hbeacon.trans hseen).trans samePlace_refresh

theorem samePlace_countUnicast (acked : Bool) : link.SamePlace (link.countUnicast acked) := by
  cases acked with
  | false => exact ⟨⟨rfl, rfl, rfl⟩, rfl⟩
  | true =>
    have hcounted : link.SamePlace { link with quality := { link.quality with
        numAckedUnicasts := link.quality.numAckedUnicasts + 1 } } := ⟨⟨rfl, rfl, rfl⟩, rfl⟩
    exact hcounted.trans samePlace_refresh

theorem samePlace_reportUnicastCompletion (acked : Bool) :
    link.SamePlace (link.reportUnicastCompletion acked) := by
  apply (samePlace_countUnicast acked).trans
  rw [reportUnicastCompletion]
  dsimp only
  split
  · exact ⟨⟨rfl, rfl, rfl⟩, rfl⟩
  · exact samePlace_recomputeAckBased

end LowpanLink

/-! ## Estimates -/

theorem toNat_integrateEtx (oldEtx newEtx : UInt16) :
    (lowpanMeshLinkTableIntegrateEtxWithEwma oldEtx newEtx).toNat =
      (newEtx.toNat * 2 + oldEtx.toNat * 14) / 16 := by
  have hold := oldEtx.toNat_lt
  have hnew := newEtx.toNat_lt
  rw [lowpanMeshLinkTableIntegrateEtxWithEwma, WHIP6_LINK_ETX_EWMA_COEFFICIENT_NUMERATOR,
    WHIP6_LINK_ETX_EWMA_COEFFICIENT_DENOMINATOR, UInt32.toNat_toUInt16, UInt32.toNat_div,
    UInt32.toNat_add, UInt32.toNat_mul, UInt32.toNat_mul, UInt16.toNat_toUInt32,
    UInt16.toNat_toUInt32,
    show ((16 : UInt32) - 14).toNat = 2 from rfl, show (14 : UInt32).toNat = 14 from rfl,
    show (16 : UInt32).toNat = 16 from rfl]
  omega

/-- A mean of two estimates that are not below one transmission is not, either. -/
theorem one_le_integrateEtx {oldEtx newEtx : UInt16} (hold : WHIP6_ETX_METRIC_ONE ≤ oldEtx)
    (hnew : WHIP6_ETX_METRIC_ONE ≤ newEtx) :
    WHIP6_ETX_METRIC_ONE ≤ lowpanMeshLinkTableIntegrateEtxWithEwma oldEtx newEtx := by
  have hone : WHIP6_ETX_METRIC_ONE.toNat = 16 := rfl
  rw [UInt16.le_iff_toNat_le, hone] at hold hnew ⊢
  rw [toNat_integrateEtx]
  omega

theorem one_le_metricPrrToEtx (prr : UInt8) : WHIP6_ETX_METRIC_ONE ≤ metricPrrToEtx prr := by
  rw [metricPrrToEtx]
  split
  · decide
  · next hprr =>
    have hpos : 0 < prr.toNat := by
      rw [UInt8.le_iff_toNat_le] at hprr
      exact Nat.not_le.mp hprr
    have hlt := prr.toNat_lt
    have hprr' : (prr - WHIP6_PRR_METRIC_ZERO).toUInt16.toNat = prr.toNat := by
      rw [UInt8.toNat_toUInt16, WHIP6_PRR_METRIC_ZERO, UInt8.sub_zero]
    rw [UInt16.le_iff_toNat_le, UInt16.toNat_div, hprr',
      show ((WHIP6_PRR_METRIC_ONE - WHIP6_PRR_METRIC_ZERO).toUInt16 * WHIP6_ETX_METRIC_ONE).toNat =
        255 * 16 from rfl, show WHIP6_ETX_METRIC_ONE.toNat = 16 from rfl,
      Nat.le_div_iff_mul_le hpos]
    omega

namespace LowpanLink

variable {link : LowpanLink}

theorem one_le_etx_recomputeBeaconBased (h : WHIP6_ETX_METRIC_ONE ≤ link.quality.etx) :
    WHIP6_ETX_METRIC_ONE ≤ link.recomputeBeaconBasedLinkQualityIfNecessary.quality.etx := by
  rw [recomputeBeaconBasedLinkQualityIfNecessary]
  dsimp only
  split
  · exact h
  · apply one_le_integrateEtx
    · split
      · exact (by decide : WHIP6_ETX_METRIC_ONE ≤ WHIP6_LINK_INITAL_LINK_ETX)
      · exact h
    · exact one_le_metricPrrToEtx _

theorem one_le_etx_recomputeAckBased (h : WHIP6_ETX_METRIC_ONE ≤ link.quality.etx)
    (hsum : link.quality.numAckedUnicasts.toNat + link.quality.numUnackedUnicasts.toNat < 256) :
    WHIP6_ETX_METRIC_ONE ≤ link.recomputeAckBasedLinkQualityIfNecessary.quality.etx := by
  have htotal : (link.quality.numAckedUnicasts + link.quality.numUnackedUnicasts).toNat =
      link.quality.numAckedUnicasts.toNat + link.quality.numUnackedUnicasts.toNat := by
    rw [UInt8.toNat_add]
    exact Nat.mod_eq_of_lt hsum
  have hone : WHIP6_ETX_METRIC_ONE.toNat = 16 := rfl
  have hold : WHIP6_ETX_METRIC_ONE ≤ (if link.quality.etx = WHIP6_ETX_METRIC_INFINITE then
      WHIP6_LINK_INITAL_LINK_ETX else link.quality.etx) := by
    split
    · decide
    · exact h
  rw [recomputeAckBasedLinkQualityIfNecessary]
  dsimp only
  split
  · exact h
  · split
    · apply one_le_integrateEtx hold
      rw [UInt16.le_iff_toNat_le, UInt16.toNat_mul, UInt16.toNat_add, UInt8.toNat_toUInt16, htotal,
        hone, show (1 : UInt16).toNat = 1 from rfl]
      omega
    next hacked =>
      apply one_le_integrateEtx hold
      have hpos : 0 < link.quality.numAckedUnicasts.toNat := by
        rw [Nat.pos_iff_ne_zero]
        exact fun hzero => hacked (UInt8.toNat_inj.mp hzero)
      rw [UInt16.le_iff_toNat_le, UInt16.toNat_div, UInt16.toNat_mul, UInt8.toNat_toUInt16,
        UInt8.toNat_toUInt16, htotal, hone, Nat.le_div_iff_mul_le hpos]
      omega

theorem one_le_etx_reportBroadcastReception (h : WHIP6_ETX_METRIC_ONE ≤ link.quality.etx)
    (seqNo : UInt8) : WHIP6_ETX_METRIC_ONE ≤ (link.reportBroadcastReception seqNo).quality.etx := by
  have hstarted : WHIP6_ETX_METRIC_ONE ≤ (link.startInitIfInfinite seqNo).quality.etx := by
    rw [startInitIfInfinite]
    split <;> exact h
  have hcounted :
      WHIP6_ETX_METRIC_ONE ≤ ((link.startInitIfInfinite seqNo).countBeacon seqNo).quality.etx := by
    rw [countBeacon]
    dsimp only
    split
    · exact (by decide : WHIP6_ETX_METRIC_ONE ≤ WHIP6_ETX_METRIC_INFINITE)
    · exact hstarted
  exact one_le_etx_recomputeBeaconBased hcounted

/-! ## Counters -/

/-- A report restarts the counters of the unicasts: it makes an estimate from them, or gives the
link up. -/
def restartsUnicasts (link : LowpanLink) (acked : Bool) : Bool :=
  let link := link.countUnicast acked
  !acked && link.tooManyUnacked ||
    !link.tooFewUnicasts && link.quality.numAckedUnicasts != 0

/-- So many beacons were missed that the link starts anew. -/
def missedTooMany (link : LowpanLink) (seqNo : UInt8) : Bool :=
  seqNo - (link.startInitIfInfinite seqNo).quality.lastBeaconSeqNo - 1 >
    WHIP6_MAX_NUM_MISSED_BROADCASTS_BEFORE_LINK_RESET

theorem unicasts_reportUnicastCompletion (acked : Bool) :
    let link' := link.reportUnicastCompletion acked
    let counted := if link.restartsUnicasts acked then (0, 0) else
      ((link.countUnicast acked).quality.numAckedUnicasts,
        (link.countUnicast acked).quality.numUnackedUnicasts)
    (link'.quality.numAckedUnicasts, link'.quality.numUnackedUnicasts) = counted := by
  rw [reportUnicastCompletion, restartsUnicasts]
  dsimp only
  generalize link.countUnicast acked = link
  by_cases hgiven : (!acked && link.tooManyUnacked) = true
  · rw [if_pos hgiven, hgiven, Bool.true_or, if_pos rfl]
  · rw [if_neg hgiven, Bool.eq_false_of_not_eq_true hgiven, Bool.false_or,
      recomputeAckBasedLinkQualityIfNecessary]
    dsimp only
    cases link.tooFewUnicasts with
    | true => rfl
    | false =>
      rw [if_neg Bool.false_ne_true, Bool.not_false, Bool.true_and]
      by_cases hacked : link.quality.numAckedUnicasts = 0
      · have hzero : (link.quality.numAckedUnicasts != 0) = false := by
          rw [hacked]
          rfl
        rw [if_pos hacked, hzero]
        rfl
      · have hsome : (link.quality.numAckedUnicasts != 0) = true := bne_iff_ne.mpr hacked
        rw [if_neg hacked, hsome]
        rfl

theorem unicasts_reportBroadcastReception (seqNo : UInt8) :
    let link' := link.reportBroadcastReception seqNo
    let counted := if link.missedTooMany seqNo then (0, 0) else
      (link.quality.numAckedUnicasts, link.quality.numUnackedUnicasts)
    (link'.quality.numAckedUnicasts, link'.quality.numUnackedUnicasts) = counted := by
  have hrecomputed : ∀ link : LowpanLink,
      (link.recomputeBeaconBasedLinkQualityIfNecessary.quality.numAckedUnicasts,
        link.recomputeBeaconBasedLinkQualityIfNecessary.quality.numUnackedUnicasts) =
      (link.quality.numAckedUnicasts, link.quality.numUnackedUnicasts) := by
    intro link
    rw [recomputeBeaconBasedLinkQualityIfNecessary]
    dsimp only
    split
    · rfl
    · split <;> rfl
  refine (hrecomputed ((link.startInitIfInfinite seqNo).countBeacon seqNo)).trans ?_
  rw [countBeacon, missedTooMany]
  dsimp only
  simp only [decide_eq_true_eq]
  split
  · rfl
  · rw [startInitIfInfinite]
    split <;> rfl

theorem one_le_etx_reportUnicastCompletion (h : WHIP6_ETX_METRIC_ONE ≤ link.quality.etx)
    (acked : Bool)
    (hsum : link.quality.numAckedUnicasts.toNat + link.quality.numUnackedUnicasts.toNat < 255) :
    WHIP6_ETX_METRIC_ONE ≤ (link.reportUnicastCompletion acked).quality.etx := by
  have hcounted : WHIP6_ETX_METRIC_ONE ≤ (link.countUnicast acked).quality.etx := by
    cases acked <;> exact h
  rw [reportUnicastCompletion]
  dsimp only
  split
  · exact (by decide : WHIP6_ETX_METRIC_ONE ≤ WHIP6_ETX_METRIC_INFINITE)
  · apply one_le_etx_recomputeAckBased hcounted
    cases acked with
    | false =>
      change link.quality.numAckedUnicasts.toNat + (link.quality.numUnackedUnicasts + 1).toNat < 256
      rw [UInt8.toNat_add, show (1 : UInt8).toNat = 1 from rfl]
      omega
    | true =>
      change (link.quality.numAckedUnicasts + 1).toNat + link.quality.numUnackedUnicasts.toNat < 256
      rw [UInt8.toNat_add, show (1 : UInt8).toNat = 1 from rfl]
      omega

end LowpanLink

end Whip6
