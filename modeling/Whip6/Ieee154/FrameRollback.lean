import Whip6.Ieee154.FrameCodec

/-!
# Reinitialising a frame without success

A failing `ieee154DFrameInfoReinitializeFrameForAddresses` puts the description of the frame back,
but not the bytes of the buffer that it has written by then: the frame control field and, when the
buffer is too short, the length.  So nothing has changed exactly when these bytes have been in the
buffer before (`reinitializeFrameForAddresses_unchanged_iff`); all other bytes are left alone.
-/

namespace Whip6

/-- The flags that a reinitialisation makes of its arguments. -/
def reinitializationFlags (dstAddr srcAddr : Ieee154Addr) (srcPanIdOrNull : Option Ieee154PanId) :
    UInt8 :=
  (dstAddr.mode &&& IEEE154_ADDR_MODE_MASK) |||
    ((srcAddr.mode &&& IEEE154_ADDR_MODE_MASK) <<< 2) |||
    (if srcPanIdOrNull.isSome then IEEE154_DFRAME_INFO_FLAG_INTER_PAN else 0)

section Flags

variable (dstAddr srcAddr : Ieee154Addr) (srcPanIdOrNull : Option Ieee154PanId)

theorem reinitializationFlags_dstMode :
    reinitializationFlags dstAddr srcAddr srcPanIdOrNull &&& IEEE154_ADDR_MODE_MASK =
      dstAddr.mode := by
  cases dstAddr <;> cases srcAddr <;> cases srcPanIdOrNull <;>
    simp only [reinitializationFlags, Ieee154Addr.mode, Option.isSome] <;> decide

theorem reinitializationFlags_srcMode :
    (reinitializationFlags dstAddr srcAddr srcPanIdOrNull >>> 2) &&& IEEE154_ADDR_MODE_MASK =
      srcAddr.mode := by
  cases dstAddr <;> cases srcAddr <;> cases srcPanIdOrNull <;>
    simp only [reinitializationFlags, Ieee154Addr.mode, Option.isSome] <;> decide

theorem reinitializationFlags_interPan :
    reinitializationFlags dstAddr srcAddr srcPanIdOrNull &&&
        IEEE154_DFRAME_INFO_FLAG_INTER_PAN ≠ 0 ↔
      srcPanIdOrNull.isSome = true := by
  cases dstAddr <;> cases srcAddr <;> cases srcPanIdOrNull <;>
    simp only [reinitializationFlags, Ieee154Addr.mode, Option.isSome] <;> decide

end Flags

/-- What a failing reinitialisation writes is in the buffer before, or it fails before it writes,
or it does not fail. -/
def ReinitializationKeeps (frame : Ieee154DframeInfo) (dstAddr srcAddr : Ieee154Addr)
    (srcPanIdOrNull : Option Ieee154PanId) : Prop :=
  let control1 := IEEE154_DFRAME_TYPE |||
    if srcPanIdOrNull.isSome then 0 else IEEE154_FCF_INTRA_PAN_FLAG_BIT
  frame.bufferPtr = [] ∨ frame.bufferLen < IEEE154_DFRAME_MINIMAL_SIZE ∨
    match ieee154AddrModeLen dstAddr.mode, ieee154AddrModeLen srcAddr.mode with
    | none, _ => frame.bufferPtr[1]? = some IEEE154_DFRAME_TYPE ∧ frame.bufferPtr[2]? = some 0
    | some _, none =>
      frame.bufferPtr[1]? = some control1 ∧ frame.bufferPtr[2]? = some (dstAddr.mode <<< 2)
    | some dstLen, some srcLen =>
      let len := 5 + dstLen + (if srcPanIdOrNull.isSome then 2 else 0) + srcLen
      len < frame.bufferLen.toNat ∨
        frame.bufferPtr[0]? = some (UInt8.ofNat len) ∧ frame.bufferPtr[1]? = some control1 ∧
          frame.bufferPtr[2]? = some ((dstAddr.mode <<< 2) ||| (srcAddr.mode <<< 6))

/-! ## The writes of a description that fails -/

theorem ieee154DFrameInfoNew_dstMode (frame : Ieee154DframeInfo) (b₀ b₁ b₂ : UInt8)
    (rest : List UInt8) {bufLen flags : UInt8} (hsize : ¬bufLen < IEEE154_DFRAME_MINIMAL_SIZE)
    (hd : ieee154AddrModeLen (flags &&& IEEE154_ADDR_MODE_MASK) = none) :
    ieee154DFrameInfoNew frame (b₀ :: b₁ :: b₂ :: rest) bufLen flags =
      (.argumentError, ⟨b₀ :: IEEE154_DFRAME_TYPE :: 0 :: rest, bufLen, flags, 0, 0⟩) := by
  rw [ieee154DFrameInfoNew, if_neg hsize]
  simp only [hd]
  rfl

theorem ieee154DFrameInfoNew_srcMode (frame : Ieee154DframeInfo) (b₀ b₁ b₂ : UInt8)
    (rest : List UInt8) {bufLen flags : UInt8} {dstLen : ℕ} {inter : Bool}
    (hsize : ¬bufLen < IEEE154_DFRAME_MINIMAL_SIZE)
    (hinter : flags &&& IEEE154_DFRAME_INFO_FLAG_INTER_PAN ≠ 0 ↔ inter = true)
    (hd : ieee154AddrModeLen (flags &&& IEEE154_ADDR_MODE_MASK) = some dstLen)
    (hs : ieee154AddrModeLen ((flags >>> 2) &&& IEEE154_ADDR_MODE_MASK) = none) :
    (ieee154DFrameInfoNew frame (b₀ :: b₁ :: b₂ :: rest) bufLen flags).1 = .argumentError ∧
      (ieee154DFrameInfoNew frame (b₀ :: b₁ :: b₂ :: rest) bufLen flags).2.bufferPtr =
        b₀ :: (IEEE154_DFRAME_TYPE ||| if inter then 0 else IEEE154_FCF_INTRA_PAN_FLAG_BIT) ::
          ((flags &&& IEEE154_ADDR_MODE_MASK) <<< 2) :: rest := by
  rw [ieee154DFrameInfoNew, if_neg hsize]
  generalize flags &&& IEEE154_ADDR_MODE_MASK = dm at hd ⊢
  simp only [hinter, hd, hs]
  refine ⟨trivial, ?_⟩
  cases inter <;>
    simp only [List.set_cons_zero, List.set_cons_succ, List.getD_cons_zero, List.getD_cons_succ,
      UInt8.zero_or, UInt8.or_zero, if_true, if_false, Bool.false_eq_true]

/-- An error puts the description back, with the bytes that were written. -/
theorem reinitializeFrameForAddresses_eq (frame : Ieee154DframeInfo)
    (dstAddr srcAddr : Ieee154Addr) (dstPanId : Ieee154PanId)
    (srcPanIdOrNull : Option Ieee154PanId) (hnull : frame.bufferPtr ≠ [])
    (hlen : frame.bufferLen ≠ 0) :
    let new := ieee154DFrameInfoNew frame frame.bufferPtr frame.bufferLen
      (reinitializationFlags dstAddr srcAddr srcPanIdOrNull)
    let r := ieee154DFrameInfoReinitializeFrameForAddresses frame dstAddr srcAddr dstPanId
      srcPanIdOrNull
    new.1 ≠ .noError ∧ r = (new.1, { frame with bufferPtr := new.2.bufferPtr }) ∨
      new.1 = .noError ∧ r.1 = .noError := by
  intro new r
  have hr : r = ieee154DFrameInfoReinitializeFrameForAddresses frame dstAddr srcAddr dstPanId
    srcPanIdOrNull := rfl
  rw [ieee154DFrameInfoReinitializeFrameForAddresses,
    if_neg (not_or.mpr ⟨hnull, hlen⟩)] at hr
  by_cases hnew : new.1 = .noError
  · refine Or.inr ⟨hnew, ?_⟩
    rw [hr.trans (if_neg (not_not.mpr hnew))]
    dsimp only
    generalize ieee154DFrameIsInterPan _ = inter
    cases inter <;> cases srcPanIdOrNull <;> rfl
  · exact Or.inl ⟨hnew, hr.trans (if_pos hnew)⟩

/-- A failing call leaves the frame as it was exactly when the bytes that it writes by then have
been there before. -/
theorem reinitializeFrameForAddresses_unchanged_iff (frame : Ieee154DframeInfo)
    (hbuf : frame.bufferPtr ≠ [] → frame.bufferLen.toNat ≤ frame.bufferPtr.length)
    (dstAddr srcAddr : Ieee154Addr) (dstPanId : Ieee154PanId)
    (srcPanIdOrNull : Option Ieee154PanId) :
    let r := ieee154DFrameInfoReinitializeFrameForAddresses frame dstAddr srcAddr dstPanId
      srcPanIdOrNull
    (r.1 ≠ .noError → r.2 = frame) ↔
      ReinitializationKeeps frame dstAddr srcAddr srcPanIdOrNull := by
  intro r
  by_cases hstate : frame.bufferPtr = [] ∨ frame.bufferLen = 0
  · refine iff_of_true (fun _ => ?_) ?_
    · simp only [r, ieee154DFrameInfoReinitializeFrameForAddresses, if_pos hstate]
    · rcases hstate with hnull | hlen
      · exact Or.inl hnull
      · refine Or.inr (Or.inl ?_)
        rw [hlen]
        decide
  obtain ⟨hnull, hlen⟩ := not_or.mp hstate
  have hcases := reinitializeFrameForAddresses_eq frame dstAddr srcAddr dstPanId srcPanIdOrNull
    hnull hlen
  by_cases hsize : frame.bufferLen < IEEE154_DFRAME_MINIMAL_SIZE
  · simp only [ieee154DFrameInfoNew, if_pos hsize] at hcases
    rcases hcases with ⟨-, hr⟩ | ⟨hok, -⟩
    · exact iff_of_true (fun _ => congrArg Prod.snd hr) (Or.inr (Or.inl hsize))
    · cases hok
  have hmin : 6 ≤ frame.bufferLen.toNat := by
    rw [UInt8.lt_iff_toNat_lt] at hsize
    exact Nat.not_lt.mp hsize
  rcases frame with ⟨bufPtr, bufLen, frameFlags, off₁, off₂⟩
  obtain ⟨b₀, b₁, b₂, rest, rfl⟩ : ∃ b₀ b₁ b₂ rest, bufPtr = b₀ :: b₁ :: b₂ :: rest := by
    have hthree : 6 ≤ bufPtr.length := hmin.trans (hbuf hnull)
    rcases bufPtr with _ | ⟨b₀, _ | ⟨b₁, _ | ⟨b₂, rest⟩⟩⟩
    · exact absurd hthree (by simp)
    · exact absurd hthree (by simp)
    · exact absurd hthree (by simp)
    · exact ⟨b₀, b₁, b₂, rest, rfl⟩
  have hdst := reinitializationFlags_dstMode dstAddr srcAddr srcPanIdOrNull
  have hsrc := reinitializationFlags_srcMode dstAddr srcAddr srcPanIdOrNull
  have hinter := reinitializationFlags_interPan dstAddr srcAddr srcPanIdOrNull
  -- The three bytes that a call may write.
  have hbytes : ∀ c₀ c₁ c₂, (∃ e, e ≠ Whip6Error.noError ∧
        r = (e, ⟨c₀ :: c₁ :: c₂ :: rest, bufLen, frameFlags, off₁, off₂⟩)) →
      ((r.1 ≠ .noError → r.2 = ⟨b₀ :: b₁ :: b₂ :: rest, bufLen, frameFlags, off₁, off₂⟩) ↔
        b₀ = c₀ ∧ b₁ = c₁ ∧ b₂ = c₂) := by
    rintro c₀ c₁ c₂ ⟨e, he, hr⟩
    rw [hr]
    constructor
    · intro hsame
      have hlist := congrArg Ieee154DframeInfo.bufferPtr (hsame he)
      simp only [List.cons.injEq, and_true] at hlist
      exact ⟨hlist.1.symm, hlist.2.1.symm, hlist.2.2.symm⟩
    · rintro ⟨rfl, rfl, rfl⟩ -
      rfl
  rw [ReinitializationKeeps, or_iff_right hnull, or_iff_right hsize]
  generalize reinitializationFlags dstAddr srcAddr srcPanIdOrNull = flags at *
  dsimp only at hcases hsize
  simp only [List.getElem?_cons_zero, List.getElem?_cons_succ, Option.some.injEq]
  cases hd : ieee154AddrModeLen dstAddr.mode with
  | none =>
    rw [← hdst] at hd
    rw [ieee154DFrameInfoNew_dstMode _ b₀ b₁ b₂ rest hsize hd] at hcases
    rcases hcases with ⟨hne, hr⟩ | ⟨hok, -⟩
    · rw [hbytes _ _ _ ⟨_, hne, hr⟩]
      exact and_iff_right rfl
    · cases hok
  | some dstLen =>
    rw [← hdst] at hd
    cases hs : ieee154AddrModeLen srcAddr.mode with
    | none =>
      rw [← hsrc] at hs
      obtain ⟨herr, hptr⟩ := ieee154DFrameInfoNew_srcMode ⟨b₀ :: b₁ :: b₂ :: rest, bufLen,
        frameFlags, off₁, off₂⟩ b₀ b₁ b₂ rest hsize hinter hd hs
      rw [herr, hptr, hdst] at hcases
      rcases hcases with ⟨hne, hr⟩ | ⟨hok, -⟩
      · rw [hbytes _ _ _ ⟨_, hne, hr⟩]
        exact and_iff_right rfl
      · cases hok
    | some srcLen =>
      rw [← hsrc] at hs
      have hnew := ieee154DFrameInfoNew_eq ⟨b₀ :: b₁ :: b₂ :: rest, bufLen, frameFlags, off₁, off₂⟩
        b₀ b₁ b₂ rest hsize hinter hd hs
      dsimp only at hnew ⊢
      generalize (if srcPanIdOrNull.isSome = true then 2 else 0) = srcPanLen at *
      rw [hnew, hdst, hsrc] at hcases
      by_cases hroom : 5 + dstLen + srcPanLen + srcLen < bufLen.toNat
      · rw [if_neg (by omega)] at hcases
        rcases hcases with ⟨hne, -⟩ | ⟨-, hok⟩
        · exact absurd rfl hne
        · exact iff_of_true (fun herr => absurd hok herr) (Or.inl hroom)
      · rw [if_pos (by omega)] at hcases
        rcases hcases with ⟨hne, hr⟩ | ⟨hok, -⟩
        · rw [hbytes _ _ _ ⟨_, hne, hr⟩, or_iff_right hroom]
        · cases hok

/-- A frame whose control field is that of the failing call. -/
theorem reinitializeFrameForAddresses_unchanged_iff_short :
    let frame : Ieee154DframeInfo := ⟨[5, 0x01, 0x00, 0, 0, 0], 6, 0, 0, 0⟩
    (ieee154DFrameInfoReinitializeFrameForAddresses frame .none (.shrt (Vector.replicate 2 1))
      (Vector.replicate 2 0) none).2 = frame :=
  (reinitializeFrameForAddresses_unchanged_iff ⟨[5, 0x01, 0x00, 0, 0, 0], 6, 0, 0, 0⟩
    (fun _ => by decide) .none (.shrt (Vector.replicate 2 1)) (Vector.replicate 2 0) none).mpr
    (Or.inr (Or.inr ⟨rfl, rfl⟩)) (by decide)

/-- A buffer that is too short for two addresses has lost its length and its control field. -/
theorem reinitializeFrameForAddresses_not_unchanged :
    ¬∀ frame : Ieee154DframeInfo,
      (frame.bufferPtr ≠ [] → frame.bufferLen.toNat ≤ frame.bufferPtr.length) →
      ∀ (dstAddr srcAddr : Ieee154Addr) (dstPanId : Ieee154PanId)
        (srcPanIdOrNull : Option Ieee154PanId),
        (ieee154DFrameInfoReinitializeFrameForAddresses frame dstAddr srcAddr dstPanId
          srcPanIdOrNull).1 ≠ .noError →
        (ieee154DFrameInfoReinitializeFrameForAddresses frame dstAddr srcAddr dstPanId
          srcPanIdOrNull).2 = frame := by
  intro h
  have hsame := h ⟨List.replicate 12 0, 12, 0, 0, 0⟩ (fun _ => by decide)
    (.ext (Vector.replicate 8 1)) (.shrt (Vector.replicate 2 1)) (Vector.replicate 2 0) none
    (by decide +kernel)
  revert hsame
  decide +kernel

end Whip6
