import Whip6.Lowpan.ForwarderPump
import Whip6.Lowpan.FragmenterFrames

/-!
# The sequence numbers of broadcast frames

The frames of a packet that is broadcast carry a BC0 header.  Its number is in the headers that the
forwarder prepares when the fragmenter asks for a frame, and that the fragmenter packs into it; the
generator of the numbers moves when the lower layer has finished such a frame.  `Bc0World` is the
forwarder among its peers with the numbers in the frames, and its acts are the numbers of the frames
that the lower layer finishes.  They are consecutive (`lowpanForwarder_bc0Consecutive`): packets
that are fragmented have different addresses, so only one of them is broadcast, and it has one
frame.
-/

namespace Whip6

open Lib

/-! ## The numbers in the frames -/

/-- The number in the BC0 header, if there is one. -/
def LowpanUnpackedFrameHeaders.bc0SeqNo (hdrs : LowpanUnpackedFrameHeaders) : Option UInt8 :=
  if hdrs.bitmap.bc0 then some hdrs.bc0.seqNo else none

def LowpanIpv6PacketBeingForwarded.isBroadcast (fragPkt : LowpanIpv6PacketBeingForwarded) : Bool :=
  fragPkt.flags &&& FRAGMENTED_PACKET_FLAG_BROADCAST != 0

/-- What the fragmenter packs into a frame that it is provided with: the headers of the forwarder if
the packet is broadcast, and else headers of its own, without a number. -/
def LowpanForwarderMain.packedSeqNo (s : LowpanForwarderMain) (token : ℕ) : Option UInt8 :=
  if (s.fragmentedPackets (token - 1)).isBroadcast then s.bcastLowpanHdrs.bc0SeqNo else none

/-- The numbers in the frames, and which frames were not passed for sending since they were
provided. -/
structure Bc0Frames where
  seqNo : ℕ → Option UInt8
  unsent : ℕ → Bool

namespace Bc0Frames

def note (s : LowpanForwarderMain) (frames : Bc0Frames) : LowpanForwarderAct → Bc0Frames
  | .frameProvided token frame =>
    ⟨Function.update frames.seqNo frame (s.packedSeqNo token),
      Function.update frames.unsent frame true⟩
  | .frameAccepted frame => { frames with unsent := Function.update frames.unsent frame false }
  | _ => frames

/-- The number of a frame that the lower layer has finished. -/
def finished (frames : Bc0Frames) : LowpanForwarderAct → Option UInt8
  | .subFrameFinished frame => frames.seqNo frame
  | _ => none

end Bc0Frames

structure Bc0World where
  world : LowpanForwarderWorld
  frames : Bc0Frames

namespace Bc0World

def step (b : Bc0World) (event : LowpanForwarderEvent) : Bc0World × List UInt8 :=
  let r := b.world.step event
  (⟨r.1, r.2.foldl (Bc0Frames.note r.1.forwarder) b.frames⟩, r.2.filterMap b.frames.finished)

def initial (maxNumStagedPackets maxNumFragmentedPackets : UInt8)
    (elems : ℕ → LowpanIpv6PacketReadyForForwarding) (hdrs : LowpanUnpackedFrameHeaders)
    (frames : ℕ → Ieee154DframeInfo) : Bc0World :=
  ⟨.initial maxNumStagedPackets maxNumFragmentedPackets elems hdrs frames,
    ⟨fun _ => none, fun _ => false⟩⟩

/-- The events that may come.  The fragmenter has a frame sent at most once after it was provided
with it (`LowpanFragmenterMain.fragmentationTask_ready`). -/
def Allowed (b : Bc0World) (event : LowpanForwarderEvent) : Prop :=
  b.world.Allowed event ∧
    match event with
    | .startSendingFrame frame => b.frames.unsent frame = true
    | _ => True

end Bc0World

/-! ## The invariant -/

theorem ieee154AddrAnyIsBroadcast_inj {a b : Ieee154Addr} (ha : ieee154AddrAnyIsBroadcast a = true)
    (hb : ieee154AddrAnyIsBroadcast b = true) : a = b := by
  have hshrt : ∀ {addr : Ieee154Addr}, ieee154AddrAnyIsBroadcast addr = true →
      addr = .shrt #v[0xff, 0xff] := by
    intro addr haddr
    unfold ieee154AddrAnyIsBroadcast at haddr
    split at haddr
    · rename_i v
      rw [Bool.and_eq_true, beq_iff_eq, beq_iff_eq] at haddr
      obtain ⟨h0, h1⟩ := haddr
      refine congrArg Ieee154Addr.shrt (Vector.ext fun k hk => ?_)
      rcases Nat.lt_succ_iff_lt_or_eq.mp hk with hzero | rfl
      · obtain rfl : k = 0 := Nat.lt_one_iff.mp hzero
        exact h0
      · exact h1
    · cases haddr
  rw [hshrt ha, hshrt hb]

namespace LowpanForwarderMain

/-- Which entries are for broadcast packets, and that the frames in them have numbers accordingly;
that the number of a frame that may still be finished is the one of the generator; and that the
numbers so far are consecutive, with the generator behind them. -/
structure Bc0 (s : LowpanForwarderMain) (sending : List ℕ) (frames : Bc0Frames)
    (numbers : List UInt8) : Prop where
  flags : ∀ i elem, (s.fragmentedPackets i).stagingQueueElem = some elem →
    (s.fragmentedPackets i).isBroadcast = ieee154AddrAnyIsBroadcast (s.addrOf elem)
  seqNo : ∀ i f, (s.fragmentedPackets i).usedFrame = some f →
    (frames.seqNo f).isSome = (s.fragmentedPackets i).isBroadcast
  current : ∀ i f n, (s.fragmentedPackets i).usedFrame = some f →
    (frames.unsent f = true ∨ f ∈ sending) → frames.seqNo f = some n → n = s.bcastSeqNoGenerator
  sent : ∀ f ∈ sending, frames.unsent f = false
  chain : numbers.IsChain fun n n' => n' = n + 1
  last : ∀ n ∈ numbers.getLast?, s.bcastSeqNoGenerator = n + 1
  off : s.isOn = false → numbers = []

/-- What comes out of a step keeps the numbers. -/
def KeepsBc0 (r : LowpanForwarderMain × List LowpanForwarderAct) (sending : List ℕ)
    (frames : Bc0Frames) (numbers : List UInt8) : Prop :=
  ∀ sending', ledger LowpanForwarderAct.sendingEntry sending r.2 = some sending' →
    r.1.Bc0 sending' (r.2.foldl (Bc0Frames.note r.1) frames)
      (numbers ++ r.2.filterMap frames.finished)

/-- Acts by which no frame is provided or accepted, and none with a number finished below. -/
def Quiet (frames : Bc0Frames) (act : LowpanForwarderAct) : Prop :=
  (∀ f, act.sendingEntry ≠ .opens f) ∧ (∀ s, Bc0Frames.note s frames act = frames) ∧
    frames.finished act = none

variable {s s' : LowpanForwarderMain} {packets allocated sending sending' below : List ℕ}
  {jobs jobs' : FragmenterJobs} {t t' : StagingQueueLists}
  {active active' : ℕ → Option StagedPacket} {frames : Bc0Frames} {numbers : List UInt8} {i : ℕ}
  {frame : ℕ}

theorem foldl_note_of_quiet {acts : List LowpanForwarderAct} (h : ∀ act ∈ acts, Quiet frames act) :
    acts.foldl (Bc0Frames.note s) frames = frames := by
  induction acts generalizing frames with
  | nil => rfl
  | cons act acts ih =>
    rw [List.foldl_cons, (h act List.mem_cons_self).2.1]
    exact ih fun act hact => h act (List.mem_cons_of_mem _ hact)

theorem filterMap_finished_of_quiet {acts : List LowpanForwarderAct}
    (h : ∀ act ∈ acts, Quiet frames act) : acts.filterMap frames.finished = [] :=
  List.filterMap_eq_nil_iff.mpr fun act hact => (h act hact).2.2

namespace Bc0

/-- Where the entries, their addresses and the generator stay. -/
theorem congr (h : s.Bc0 sending frames numbers)
    (helem : ∀ i, (s'.fragmentedPackets i).stagingQueueElem =
      (s.fragmentedPackets i).stagingQueueElem)
    (hused : ∀ i, (s'.fragmentedPackets i).usedFrame = (s.fragmentedPackets i).usedFrame)
    (hflags : ∀ i, (s'.fragmentedPackets i).flags = (s.fragmentedPackets i).flags)
    (haddr : ∀ i elem, (s.fragmentedPackets i).stagingQueueElem = some elem →
      s'.addrOf elem = s.addrOf elem)
    (hgenerator : s'.bcastSeqNoGenerator = s.bcastSeqNoGenerator) (hon : s'.isOn = s.isOn) :
    s'.Bc0 sending frames numbers := by
  have hbroadcast : ∀ i, (s'.fragmentedPackets i).isBroadcast =
      (s.fragmentedPackets i).isBroadcast := fun i => by
    rw [LowpanIpv6PacketBeingForwarded.isBroadcast, hflags]
    rfl
  constructor
  · intro i elem hi
    rw [helem] at hi
    rw [hbroadcast, haddr i elem hi]
    exact h.flags i elem hi
  · intro i f hf
    rw [hbroadcast]
    exact h.seqNo i f (hused i ▸ hf)
  · intro i f n hf
    rw [hgenerator]
    exact h.current i f n (hused i ▸ hf)
  · exact h.sent
  · exact h.chain
  · rw [hgenerator]
    exact h.last
  · rw [hon]
    exact h.off

/-- Quiet acts. -/
theorem keeps {r : LowpanForwarderMain × List LowpanForwarderAct}
    (h : r.1.Bc0 sending frames numbers) (hquiet : ∀ act ∈ r.2, Quiet frames act) :
    KeepsBc0 r sending frames numbers := by
  intro sending' hledger
  have hsub : ∀ f ∈ sending', f ∈ sending := by
    intro f hf
    rcases mem_of_ledger hledger hf with hmem | ⟨act, hact, hopens⟩
    · exact hmem
    · exact absurd hopens ((hquiet act hact).1 f)
  rw [foldl_note_of_quiet hquiet, filterMap_finished_of_quiet hquiet, List.append_nil]
  exact { h with
    current := fun i f n hf hcase => h.current i f n hf (hcase.imp_right (hsub f))
    sent := fun f hf => h.sent f (hsub f hf) }

/-- Only one packet that is being fragmented is broadcast. -/
theorem unique (h : s.Bc0 sending frames numbers) (hinv : s.Inv packets allocated jobs t active)
    {i j : ℕ} {f g : ℕ} (hi : (s.fragmentedPackets i).usedFrame = some f)
    (hj : (s.fragmentedPackets j).usedFrame = some g)
    (hib : (s.fragmentedPackets i).isBroadcast = true)
    (hjb : (s.fragmentedPackets j).isBroadcast = true) : i = j := by
  obtain ⟨p, hp⟩ := hinv.active_of_usedFrame hi
  obtain ⟨q, hq⟩ := hinv.active_of_usedFrame hj
  rw [h.flags i p.elem ((hinv.elem i).trans (congrArg _ hp)), (hinv.holds_active hp).2] at hib
  rw [h.flags j q.elem ((hinv.elem j).trans (congrArg _ hq)), (hinv.holds_active hq).2] at hjb
  exact hinv.addr i j p q hp hq (ieee154AddrAnyIsBroadcast_inj hib hjb)

/-- Where the same packets are active, their addresses are the same. -/
theorem addrOf_eq (hinv : s.Inv packets allocated jobs t active)
    {packets' allocated' : List ℕ} (hinv' : s'.Inv packets' allocated' jobs' t' active')
    {p : StagedPacket} (hp : active i = some p) (hp' : active' i = some p) :
    s'.addrOf p.elem = s.addrOf p.elem :=
  (hinv'.holds_active hp').2.trans (hinv.holds_active hp).2.symm

/-- Steps of packets that leave the entries as they are. -/
theorem congr_inv (h : s.Bc0 sending frames numbers) (hinv : s.Inv packets allocated jobs t active)
    {packets' allocated' : List ℕ} (hinv' : s'.Inv packets' allocated' jobs' t' active)
    (hentries : s'.fragmentedPackets = s.fragmentedPackets)
    (hgenerator : s'.bcastSeqNoGenerator = s.bcastSeqNoGenerator) (hon : s'.isOn = s.isOn) :
    s'.Bc0 sending frames numbers := by
  refine h.congr (fun i => by rw [hentries]) (fun i => by rw [hentries]) (fun i => by rw [hentries])
    (fun i elem helem => ?_) hgenerator hon
  rw [hinv.elem i, Option.map_eq_some_iff] at helem
  obtain ⟨p, hp, rfl⟩ := helem
  exact addrOf_eq hinv hinv' hp hp

/-! ### Packets -/

theorem start (h : s.Bc0 sending frames numbers) (hinv : s.Inv packets allocated jobs t active)
    {frame : Option ℕ} (hframe : ∀ f, frame = some f → f ∉ allocated) (rand : UInt16) :
    KeepsBc0 (s.start frame rand).2 sending frames numbers := by
  obtain ⟨allocated', t', hinv', -⟩ := hinv.start hframe rand
  by_cases hon : s.isOn = true
  · rw [LowpanForwarderMain.start, if_pos hon]
    exact h.keeps fun act hact => by cases hact
  obtain ⟨-, -, hactive, -, hempty⟩ := hinv.off_empty (Bool.not_eq_true _ ▸ hon)
  rw [LowpanForwarderMain.start, if_neg hon] at hinv' ⊢
  dsimp only at hinv' ⊢
  cases frame with
  | none => exact (h.congr_inv hinv hinv' rfl rfl rfl).keeps fun act hact => by cases hact
  | some f =>
    have hnil := h.off (Bool.not_eq_true _ ▸ hon)
    have hused : ∀ i, (s.fragmentedPackets i).usedFrame = none := by
      intro i
      have hi := hempty i
      rw [LowpanIpv6PacketBeingForwarded.frames, List.append_eq_nil_iff, Option.toList_eq_nil_iff,
        Option.toList_eq_nil_iff] at hi
      exact hi.2
    have hstarted : ∀ {s' : LowpanForwarderMain}, s'.isOn = true →
        (∀ i, (s'.fragmentedPackets i).stagingQueueElem = none ∧
          (s'.fragmentedPackets i).usedFrame = none) → s'.Bc0 sending frames numbers := by
      intro s' hon' hentries
      constructor
      · intro i elem helem
        rw [(hentries i).1] at helem
        cases helem
      · intro i f hf
        rw [(hentries i).2] at hf
        cases hf
      · intro i f n hf
        rw [(hentries i).2] at hf
        cases hf
      · exact h.sent
      · exact h.chain
      · rw [hnil]
        intro n hn
        cases hn
      · intro hoff
        rw [hon'] at hoff
        cases hoff
    refine keeps (hstarted rfl fun i => ?_) fun act hact => ?_
    · have helem := hinv.elem i
      rw [hactive] at helem
      dsimp only
      split_ifs
      · exact ⟨rfl, hused i⟩
      · exact ⟨helem, hused i⟩
    · obtain rfl := List.mem_singleton.mp hact
      exact ⟨fun _ => by simp [LowpanForwarderAct.sendingEntry], fun _ => rfl, rfl⟩

theorem startForwardingIpv6Packet (h : s.Bc0 sending frames numbers)
    (hinv : s.Inv packets allocated jobs t active) {packet : ℕ} (hpacket : packet ∉ packets)
    (llAddr : Ieee154Addr) :
    KeepsBc0 (s.startForwardingIpv6Packet packet llAddr).2 sending frames numbers := by
  unfold LowpanForwarderMain.startForwardingIpv6Packet
  by_cases hon : s.isOn = true
  · rw [if_neg (by rw [hon]; decide)]
    cases henqueue : lowpanPacketForwardingStagingQueueEnqueuePacket s.stagedPacketQueue packet
        llAddr with
    | mk elem queue =>
      cases elem with
      | none => exact h.keeps fun act hact => by cases hact
      | some e =>
        refine keeps (h.congr_inv hinv (hinv.enqueue hpacket hon henqueue) rfl rfl rfl)
          fun act hact => ?_
        obtain rfl := List.mem_singleton.mp hact
        exact ⟨fun _ => by simp [LowpanForwarderAct.sendingEntry], fun _ => rfl, rfl⟩
  · rw [if_pos (by rw [Bool.not_eq_true] at hon; rw [hon]; rfl)]
    exact h.keeps fun act hact => by cases hact

theorem stopForwardingIpv6Packet (h : s.Bc0 sending frames numbers)
    (hinv : s.Inv packets allocated jobs t active) (packet : ℕ) (fragStatus : ErrorT) :
    KeepsBc0 ((s.stopForwardingIpv6Packet packet fragStatus).2, []) sending frames numbers := by
  refine keeps ?_ fun act hact => by cases hact
  unfold LowpanForwarderMain.stopForwardingIpv6Packet
  cases hfind : s.findFragmentedPacket packet with
  | some i => exact h
  | none =>
    have hinv' := hinv.complete packet ECANCEL (hinv.not_active_of_find hfind)
    obtain ⟨queue, posted, heq⟩ := Inv.stopForwardingNonfragmentedPacket_eq s packet ECANCEL
    dsimp only
    rw [heq] at hinv' ⊢
    exact h.congr_inv hinv hinv' rfl rfl rfl

theorem processStagedPacketsTask (h : s.Bc0 sending frames numbers)
    (hinv : s.Inv packets allocated jobs t active) (frame : Option ℕ) (fragToken : ℕ) :
    KeepsBc0 (s.processStagedPacketsTask frame fragToken) sending frames numbers := by
  have hquiet : ∀ act ∈ s.allocActs frame, Quiet frames act := by
    intro act hact
    rw [allocActs] at hact
    split_ifs at hact
    · obtain ⟨f, -, rfl⟩ := List.mem_map.mp hact
      exact ⟨fun _ => by simp [LowpanForwarderAct.sendingEntry], fun _ => rfl, rfl⟩
    · cases hact
  rcases hinv.processStagedPacketsTask_cases frame fragToken with
    ⟨-, htask⟩ | ⟨p, hp, -, ⟨-, htask⟩ | ⟨f, hfree, -, htask⟩⟩
  · rw [htask]
    exact keeps (h.congr (fun _ => rfl) (fun _ => rfl) (fun _ => rfl) (fun _ _ _ => rfl) rfl rfl)
      fun act hact => by cases hact
  · rw [htask]
    exact keeps (h.congr (fun _ => rfl) (fun _ => rfl) (fun _ => rfl) (fun _ _ _ => rfl) rfl rfl)
      hquiet
  · rw [htask]
    have haddr := (hinv.holds (List.mem_append_left t.completed hp)).2
    have hbit : ∀ b : Bool, ((if b then FRAGMENTED_PACKET_FLAG_BROADCAST else 0) &&&
        FRAGMENTED_PACKET_FLAG_BROADCAST != 0) = b := by
      decide
    have hflags : (⟨some p.elem, some f, none, if ieee154AddrAnyIsBroadcast p.addr then
        FRAGMENTED_PACKET_FLAG_BROADCAST else 0, 0⟩ : LowpanIpv6PacketBeingForwarded).isBroadcast =
          ieee154AddrAnyIsBroadcast p.addr := hbit _
    refine keeps { h with flags := ?_, seqNo := ?_, current := ?_ } fun act hact => ?_
    · intro i elem helem
      dsimp only [setFragmentedPacket] at helem ⊢
      by_cases hi : i = fragToken - 1
      · subst hi
        rw [Function.update_self] at helem ⊢
        obtain rfl := Option.some.inj helem
        exact hflags.trans (congrArg _ haddr.symm)
      · rw [Function.update_of_ne hi] at helem ⊢
        exact h.flags i elem helem
    · intro i g hg
      dsimp only [setFragmentedPacket] at hg ⊢
      by_cases hi : i = fragToken - 1
      · subst hi
        rw [Function.update_self] at hg
        cases hg
      · rw [Function.update_of_ne hi] at hg ⊢
        exact h.seqNo i g hg
    · intro i g n hg
      dsimp only [setFragmentedPacket] at hg ⊢
      by_cases hi : i = fragToken - 1
      · subst hi
        rw [Function.update_self] at hg
        cases hg
      · rw [Function.update_of_ne hi] at hg
        exact h.current i g n hg
    · rcases List.mem_append.mp hact with hact | hact
      · exact hquiet act hact
      · obtain rfl := List.mem_singleton.mp hact
        exact ⟨fun _ => by simp [LowpanForwarderAct.sendingEntry], fun _ => rfl, rfl⟩

theorem processCompletedPacketsTask (h : s.Bc0 sending frames numbers) :
    KeepsBc0 s.processCompletedPacketsTask sending frames numbers := by
  unfold LowpanForwarderMain.processCompletedPacketsTask
  dsimp only
  cases s.stagedPacketQueue.completedQueueFirst with
  | none =>
    exact keeps (h.congr (fun _ => rfl) (fun _ => rfl) (fun _ => rfl) (fun _ _ _ => rfl) rfl rfl)
      fun act hact => by cases hact
  | some e =>
    refine keeps (h.congr (fun _ => rfl) (fun _ => rfl) (fun _ => rfl) (fun _ _ _ => rfl) rfl rfl)
      fun act hact => ?_
    obtain rfl := List.mem_singleton.mp hact
    exact ⟨fun _ => by simp [LowpanForwarderAct.sendingEntry], fun _ => rfl, rfl⟩

theorem processCompletedPacketsTaskReturn (h : s.Bc0 sending frames numbers)
    (hinv : s.Inv packets allocated jobs t active) (hsig : s.signaling = true) :
    KeepsBc0 (s.processCompletedPacketsTaskReturn, []) sending frames numbers :=
  keeps (h.congr_inv hinv (hinv.processCompletedPacketsTaskReturn hsig) rfl rfl rfl)
    fun act hact => by cases hact

/-! ### The fragmenter -/

/-- An entry is given a frame that was not in use, with the number of the generator if its packet is
broadcast, and else none. -/
theorem provided (h : s.Bc0 sending frames numbers) (hframe : frame ∉ sending)
    (hother : ∀ j g, j ≠ i → (s.fragmentedPackets j).usedFrame = some g → g ≠ frame)
    (hentry : (s'.fragmentedPackets i).stagingQueueElem = (s.fragmentedPackets i).stagingQueueElem ∧
      (s'.fragmentedPackets i).usedFrame = some frame ∧
        (s'.fragmentedPackets i).flags = (s.fragmentedPackets i).flags)
    (hothers : ∀ j ≠ i, s'.fragmentedPackets j = s.fragmentedPackets j)
    (hpacked : s'.packedSeqNo (i + 1) =
      if (s'.fragmentedPackets i).isBroadcast then some s.bcastSeqNoGenerator else none)
    (haddr : ∀ elem, s'.addrOf elem = s.addrOf elem)
    (hgenerator : s'.bcastSeqNoGenerator = s.bcastSeqNoGenerator) (hon : s'.isOn = s.isOn) :
    KeepsBc0 (s', [.frameProvided (i + 1) frame]) sending frames numbers := by
  intro sending' hledger
  obtain rfl := Option.some.inj hledger
  change s'.Bc0 sending ⟨Function.update frames.seqNo frame (s'.packedSeqNo (i + 1)),
    Function.update frames.unsent frame true⟩ (numbers ++ [])
  rw [List.append_nil]
  constructor
  · intro j elem helem
    rw [haddr]
    by_cases hj : j = i
    · subst hj
      rw [hentry.1] at helem
      rw [LowpanIpv6PacketBeingForwarded.isBroadcast, hentry.2.2]
      exact h.flags j elem helem
    · rw [hothers j hj] at helem ⊢
      exact h.flags j elem helem
  · intro j g hg
    by_cases hj : j = i
    · subst hj
      rw [hentry.2.1, Option.some.injEq] at hg
      subst hg
      dsimp only
      rw [Function.update_self, hpacked]
      cases (s'.fragmentedPackets j).isBroadcast <;> rfl
    · rw [hothers j hj] at hg ⊢
      dsimp only
      rw [Function.update_of_ne (hother j g hj hg)]
      exact h.seqNo j g hg
  · intro j g n hg hcase hn
    rw [hgenerator]
    by_cases hj : j = i
    · subst hj
      rw [hentry.2.1, Option.some.injEq] at hg
      subst hg
      dsimp only at hn
      rw [Function.update_self, hpacked, Option.ite_none_right_eq_some, Option.some.injEq] at hn
      exact hn.2.symm
    · rw [hothers j hj] at hg
      dsimp only at hcase hn
      rw [Function.update_of_ne (hother j g hj hg)] at hcase hn
      exact h.current j g n hg hcase hn
  · intro g hg
    have hne : g ≠ frame := by
      rintro rfl
      exact hframe hg
    dsimp only
    rw [Function.update_of_ne hne]
    exact h.sent g hg
  · exact h.chain
  · rw [hgenerator]
    exact h.last
  · rw [hon]
    exact h.off

theorem frameForFragmentedPacketRequested (h : s.Bc0 sending frames numbers)
    (hinv : s.Inv packets allocated jobs t active) (hpump : s.Pump sending below) {token : ℕ}
    (htoken : jobs token ≠ none) (answers : FrameRequestAnswers) :
    KeepsBc0 (s.frameForFragmentedPacketRequested token answers).2 sending frames numbers := by
  obtain ⟨job, hjob⟩ := Option.ne_none_iff_exists'.mp htoken
  obtain ⟨i, p, rfl, hp, rfl⟩ := hinv.of_job hjob
  have helem : (s.fragmentedPackets i).stagingQueueElem = some p.elem :=
    (hinv.elem i).trans (congrArg _ hp)
  have hlt := (hinv.staged i p hp).2
  unfold LowpanForwarderMain.frameForFragmentedPacketRequested
  simp only [Nat.add_sub_cancel, helem]
  rcases hinv.frames_cases hp with ⟨frame, hfree, hused⟩ | ⟨frame, hfree, -⟩
  · -- The frame that is provided is not in use elsewhere.
    have hother : ∀ j g, j ≠ i → (s.fragmentedPackets j).usedFrame = some g → g ≠ frame := by
      rintro j g hj hg rfl
      obtain ⟨q, hq⟩ := hinv.active_of_usedFrame hg
      refine hj (hinv.frames_inj (hinv.staged j q hq).2 hlt (mem_frames_of_usedFrame hg) ?_)
      rw [LowpanIpv6PacketBeingForwarded.frames, hfree]
      exact List.mem_append_left _ List.mem_cons_self
    have hunsent : frame ∉ sending := by
      intro hmem
      obtain ⟨idx, -, hidx⟩ := List.mem_filterMap.mp (hpump.sending_perm.mem_iff.mp hmem)
      refine hother idx.toNat frame (fun heq => ?_) hidx rfl
      rw [heq, hused] at hidx
      cases hidx
    rw [hfree]
    dsimp only
    split_ifs with herror hflag
    · exact keeps (h.congr (fun _ => rfl) (fun _ => rfl) (fun _ => rfl) (fun _ _ _ => rfl) rfl rfl)
        fun act hact => by cases hact
    · refine h.provided hunsent hother ⟨?_, ?_, ?_⟩ (fun j hj => ?_) ?_ (fun _ => rfl) rfl rfl
      · rw [setFragmentedPacket_fragmentedPackets, Function.update_self]
        exact helem.symm
      · rw [setFragmentedPacket_fragmentedPackets, Function.update_self]
      · rw [setFragmentedPacket_fragmentedPackets, Function.update_self]
      · rw [setFragmentedPacket_fragmentedPackets, Function.update_of_ne hj]
      · rfl
    · refine h.provided hunsent hother ⟨?_, ?_, ?_⟩ (fun j hj => ?_) ?_ (fun _ => rfl) rfl rfl
      · rw [setFragmentedPacket_fragmentedPackets, Function.update_self]
        exact helem.symm
      · rw [setFragmentedPacket_fragmentedPackets, Function.update_self]
      · rw [setFragmentedPacket_fragmentedPackets, Function.update_self]
      · rw [setFragmentedPacket_fragmentedPackets, Function.update_of_ne hj]
      · have hbroadcast : ((s.fragmentedPackets i).flags &&&
            FRAGMENTED_PACKET_FLAG_BROADCAST != 0) = false := by
          rw [bne_eq_false_iff_eq]
          exact not_not.mp hflag
        simp only [packedSeqNo, Nat.add_sub_cancel, setFragmentedPacket_fragmentedPackets,
          Function.update_self, LowpanIpv6PacketBeingForwarded.isBroadcast, hbroadcast,
          Bool.false_eq_true, if_false]
  · rw [hfree]
    exact h.keeps fun act hact => by cases hact

theorem frameForFragmentedPacketReleased (h : s.Bc0 sending frames numbers) (token frame : ℕ) :
    KeepsBc0 (s.frameForFragmentedPacketReleased token frame) sending frames numbers := by
  have hreleased : ∀ fragPkt : LowpanIpv6PacketBeingForwarded,
      fragPkt.stagingQueueElem = (s.fragmentedPackets (token - 1)).stagingQueueElem →
      fragPkt.usedFrame = none → fragPkt.flags = (s.fragmentedPackets (token - 1)).flags →
      (s.setFragmentedPacket (token - 1) fragPkt).Bc0 sending frames numbers := by
    intro fragPkt helem' hused' hflags'
    refine { h with flags := ?_, seqNo := ?_, current := ?_ }
    · intro j elem helem
      rw [setFragmentedPacket_fragmentedPackets] at helem ⊢
      by_cases hj : j = token - 1
      · subst hj
        rw [Function.update_self] at helem ⊢
        rw [helem'] at helem
        rw [LowpanIpv6PacketBeingForwarded.isBroadcast, hflags']
        exact h.flags _ elem helem
      · rw [Function.update_of_ne hj] at helem ⊢
        exact h.flags j elem helem
    · intro j g hg
      rw [setFragmentedPacket_fragmentedPackets] at hg ⊢
      by_cases hj : j = token - 1
      · subst hj
        rw [Function.update_self, hused'] at hg
        cases hg
      · rw [Function.update_of_ne hj] at hg ⊢
        exact h.seqNo j g hg
    · intro j g n hg
      rw [setFragmentedPacket_fragmentedPackets] at hg
      by_cases hj : j = token - 1
      · subst hj
        rw [Function.update_self, hused'] at hg
        cases hg
      · rw [Function.update_of_ne hj] at hg
        exact h.current j g n hg
  unfold LowpanForwarderMain.frameForFragmentedPacketReleased
  dsimp only
  cases (s.fragmentedPackets (token - 1)).freeFrame with
  | some f =>
    refine keeps (hreleased _ rfl rfl rfl) fun act hact => ?_
    rcases List.mem_cons.mp hact with rfl | hact
    · exact ⟨fun _ => by simp [LowpanForwarderAct.sendingEntry], fun _ => rfl, rfl⟩
    · obtain rfl := List.mem_singleton.mp hact
      exact ⟨fun _ => by simp [LowpanForwarderAct.sendingEntry], fun _ => rfl, rfl⟩
  | none =>
    refine keeps (hreleased _ rfl rfl rfl) fun act hact => ?_
    obtain rfl := List.mem_singleton.mp hact
    exact ⟨fun _ => by simp [LowpanForwarderAct.sendingEntry], fun _ => rfl, rfl⟩

/-- The end of a fragmentation clears the entry, and leaves the others and the generator. -/
theorem fragmentingIpv6PacketFinished_entries (s : LowpanForwarderMain) (packet i : ℕ)
    (status : ErrorT) :
    let s' := (s.fragmentingIpv6PacketFinished packet (i + 1) status).1
    s'.fragmentedPackets = Function.update s.fragmentedPackets i
        { s.fragmentedPackets i with freeFrame := none, stagingQueueElem := none } ∧
      s'.bcastSeqNoGenerator = s.bcastSeqNoGenerator ∧ s'.isOn = s.isOn ∧ s'.txBit = s.txBit := by
  have hcleared : ∀ s₁ : LowpanForwarderMain,
      s₁.fragmentedPackets = Function.update s.fragmentedPackets i
        { s.fragmentedPackets i with freeFrame := none, stagingQueueElem := none } →
      s₁.bcastSeqNoGenerator = s.bcastSeqNoGenerator → s₁.isOn = s.isOn → s₁.txBit = s.txBit →
      let s' := (s₁.stopForwardingNonfragmentedPacket packet status).2
      s'.fragmentedPackets = Function.update s.fragmentedPackets i
          { s.fragmentedPackets i with freeFrame := none, stagingQueueElem := none } ∧
        s'.bcastSeqNoGenerator = s.bcastSeqNoGenerator ∧ s'.isOn = s.isOn ∧
          s'.txBit = s.txBit := by
    intro s₁ hentries hgenerator hon hbit
    obtain ⟨queue, posted, heq⟩ := Inv.stopForwardingNonfragmentedPacket_eq s₁ packet status
    rw [heq]
    exact ⟨hentries, hgenerator, hon, hbit⟩
  unfold LowpanForwarderMain.fragmentingIpv6PacketFinished
  simp only [Nat.add_sub_cancel]
  refine hcleared _ ?_ ?_ ?_ ?_
  all_goals
    cases (s.fragmentedPackets i).freeFrame <;> cases s.freeFrame <;> rfl

theorem fragmentingIpv6PacketFinished (h : s.Bc0 sending frames numbers)
    (hinv : s.Inv packets allocated jobs t active) {packet token : ℕ}
    (hjob : jobs token = some ⟨packet, 0⟩) (status : ErrorT) :
    KeepsBc0 (s.fragmentingIpv6PacketFinished packet token status) sending frames numbers := by
  obtain ⟨i, p, allocated', jobs', rfl, -, -, hinv', hacts, -⟩ :=
    hinv.fragmentingIpv6PacketFinished hjob status
  obtain ⟨hentries, hgenerator, hon, -⟩ := fragmentingIpv6PacketFinished_entries s packet i status
  refine keeps ⟨?_, ?_, ?_, h.sent, h.chain, ?_, ?_⟩ fun act hact => ?_
  · intro j elem helem
    rw [hentries] at helem ⊢
    by_cases hj : j = i
    · subst hj
      rw [Function.update_self] at helem
      cases helem
    · rw [Function.update_of_ne hj] at helem ⊢
      rw [h.flags j elem helem]
      rw [hinv.elem j, Option.map_eq_some_iff] at helem
      obtain ⟨q, hq, rfl⟩ := helem
      exact congrArg _ (addrOf_eq hinv hinv' hq ((Function.update_of_ne hj _ _).trans hq)).symm
  · intro j g hg
    rw [hentries] at hg ⊢
    by_cases hj : j = i
    · subst hj
      rw [Function.update_self] at hg ⊢
      exact h.seqNo j g hg
    · rw [Function.update_of_ne hj] at hg ⊢
      exact h.seqNo j g hg
  · intro j g n hg
    rw [hgenerator]
    rw [hentries] at hg
    by_cases hj : j = i
    · subst hj
      rw [Function.update_self] at hg
      exact h.current j g n hg
    · rw [Function.update_of_ne hj] at hg
      exact h.current j g n hg
  · rw [hgenerator]
    exact h.last
  · rw [hon]
    exact h.off
  · have hcase : act = .fragmentingFinished (i + 1) packet ∨ ∃ f, act = .freeFrame f := by
      rcases hacts with ⟨heq, -⟩ | ⟨f, -, heq, -⟩ <;> rw [heq] at hact
      · exact Or.inl (List.mem_singleton.mp hact)
      · rcases List.mem_cons.mp hact with rfl | hact
        · exact Or.inl rfl
        · exact Or.inr ⟨f, List.mem_singleton.mp hact⟩
    rcases hcase with rfl | ⟨f, rfl⟩
    · exact ⟨fun _ => by simp [LowpanForwarderAct.sendingEntry], fun _ => rfl, rfl⟩
    · exact ⟨fun _ => by simp [LowpanForwarderAct.sendingEntry], fun _ => rfl, rfl⟩

/-! ### Frames -/

theorem startSendingFrame (h : s.Bc0 sending frames numbers) (frame : ℕ)
    (hunsent : frames.unsent frame = true) :
    KeepsBc0 (s.startSendingFrame frame).2 sending frames numbers := by
  unfold LowpanForwarderMain.startSendingFrame
  cases s.frameQueue.addFwdPacketIdxAsLastInFrameQueue
    (s.findIndexOfFragmentedPacketWithGivenUsedFrame frame) with
  | mk added queue =>
    cases added with
    | false => exact h.keeps fun act hact => by cases hact
    | true =>
      intro sending' hledger
      obtain rfl := Option.some.inj hledger
      have haccepted : ∀ {s' : LowpanForwarderMain}, s'.Bc0 sending frames numbers →
          s'.Bc0 (frame :: sending)
            { frames with unsent := Function.update frames.unsent frame false }
            (numbers ++ []) := by
        intro s' h'
        rw [List.append_nil]
        have hwas : ∀ f, Function.update frames.unsent frame false f = true ∨
            f ∈ frame :: sending → frames.unsent f = true ∨ f ∈ sending := by
          rintro f (hf | hf)
          · by_cases heq : f = frame
            · exact Or.inl (heq ▸ hunsent)
            · rw [Function.update_of_ne heq] at hf
              exact Or.inl hf
          · rcases List.mem_cons.mp hf with rfl | hf
            · exact Or.inl hunsent
            · exact Or.inr hf
        refine { h' with current := ?_, sent := ?_ }
        · exact fun i f n hf hcase => h'.current i f n hf (hwas f hcase)
        · intro f hf
          by_cases heq : f = frame
          · rw [heq]
            exact Function.update_self _ _ _
          · dsimp only
            rw [Function.update_of_ne heq]
            exact h'.sent f (List.mem_of_ne_of_mem heq hf)
      refine haccepted ?_
      dsimp only
      split_ifs
      · exact h.congr (fun _ => rfl) (fun _ => rfl) (fun _ => rfl) (fun _ _ _ => rfl) rfl rfl
      · exact h.congr (fun _ => rfl) (fun _ => rfl) (fun _ => rfl) (fun _ _ _ => rfl) rfl rfl

theorem stopSendingFrame (h : s.Bc0 sending frames numbers) (frame : ℕ) (subStatus : ErrorT) :
    KeepsBc0 (s.stopSendingFrame frame subStatus).2 sending frames numbers := by
  have hquiet : ∀ act, act = LowpanForwarderAct.subFrameStopped frame ∨
      act = LowpanForwarderAct.frameStopped frame → Quiet frames act := by
    rintro act (rfl | rfl)
    · exact ⟨fun _ => by simp [LowpanForwarderAct.sendingEntry], fun _ => rfl, rfl⟩
    · exact ⟨fun _ => by simp [LowpanForwarderAct.sendingEntry], fun _ => rfl, rfl⟩
  unfold LowpanForwarderMain.stopSendingFrame
  dsimp only
  split_ifs
  · exact h.keeps fun act hact => by cases hact
  · exact h.keeps fun act hact => by cases hact
  · exact h.keeps fun act hact => by cases hact
  · refine keeps (h.congr (fun _ => rfl) (fun _ => rfl) (fun _ => rfl) (fun _ _ _ => rfl) rfl rfl)
      fun act hact => hquiet act ?_
    rcases List.mem_append.mp hact with hact | hact
    · exact Or.inl (List.mem_singleton.mp hact)
    · exact Or.inr (List.mem_singleton.mp hact)
  · refine keeps (h.congr (fun _ => rfl) (fun _ => rfl) (fun _ => rfl) (fun _ _ _ => rfl) rfl rfl)
      fun act hact => hquiet act (Or.inr (List.mem_singleton.mp hact))

theorem txTimerFired (h : s.Bc0 sending frames numbers) :
    KeepsBc0 (s.txTimerFired, []) sending frames numbers :=
  keeps (h.congr (fun _ => rfl) (fun _ => rfl) (fun _ => rfl) (fun _ _ _ => rfl) rfl rfl)
    fun act hact => by cases hact

theorem setRetransmissions (h : s.Bc0 sending frames numbers) (i : ℕ) (n : UInt8) :
    (s.setFragmentedPacket i { s.fragmentedPackets i with numRetransmissionsRemaining := n }).Bc0
      sending frames numbers := by
  have hentry : ∀ j, ((s.setFragmentedPacket i { s.fragmentedPackets i with
      numRetransmissionsRemaining := n }).fragmentedPackets j).stagingQueueElem =
        (s.fragmentedPackets j).stagingQueueElem ∧
      ((s.setFragmentedPacket i { s.fragmentedPackets i with
        numRetransmissionsRemaining := n }).fragmentedPackets j).usedFrame =
        (s.fragmentedPackets j).usedFrame ∧
      ((s.setFragmentedPacket i { s.fragmentedPackets i with
        numRetransmissionsRemaining := n }).fragmentedPackets j).flags =
        (s.fragmentedPackets j).flags := by
    intro j
    rw [setFragmentedPacket_fragmentedPackets]
    by_cases hj : j = i
    · subst hj
      rw [Function.update_self]
      exact ⟨rfl, rfl, rfl⟩
    · rw [Function.update_of_ne hj]
      exact ⟨rfl, rfl, rfl⟩
  exact h.congr (fun j => (hentry j).1) (fun j => (hentry j).2.1) (fun j => (hentry j).2.2)
    (fun _ _ _ => rfl) rfl rfl

theorem processEnqueuedFramesTask (h : s.Bc0 sending frames numbers) (subStatus : ErrorT) :
    KeepsBc0 (s.processEnqueuedFramesTask subStatus) sending frames numbers := by
  rcases s.processEnqueuedFramesTask_cases subStatus with
    ⟨-, htask⟩ | ⟨-, ⟨-, -, htask⟩ | ⟨-, -, htask⟩ | ⟨-, htask⟩⟩
  · rw [htask]
    exact keeps (h.congr (fun _ => rfl) (fun _ => rfl) (fun _ => rfl) (fun _ _ _ => rfl) rfl rfl)
      fun act hact => by cases hact
  · rw [htask]
    refine keeps (congr (h.setRetransmissions _ _) (fun _ => rfl) (fun _ => rfl) (fun _ => rfl)
      (fun _ _ _ => rfl) rfl rfl) fun act hact => by cases hact
  · rw [htask]
    refine keeps (h.congr (fun _ => rfl) (fun _ => rfl) (fun _ => rfl) (fun _ _ _ => rfl) rfl rfl)
      fun act hact => ?_
    obtain ⟨f, -, rfl⟩ := List.mem_map.mp hact
    exact ⟨fun _ => by simp [LowpanForwarderAct.sendingEntry], fun _ => rfl, rfl⟩
  · rw [htask]
    refine keeps (h.congr (fun _ => rfl) (fun _ => rfl) (fun _ => rfl) (fun _ _ _ => rfl) rfl rfl)
      fun act hact => ?_
    obtain rfl := List.mem_singleton.mp hact
    exact ⟨fun _ => by simp [LowpanForwarderAct.sendingEntry], fun _ => rfl, rfl⟩

/-- The end of a transmission for a broadcast packet: the generator moves, and the frame is
finished. -/
theorem frameSendingFinished_of_isBroadcast {frame : ℕ} (status : ErrorT) (linkIdx : UInt8)
    (hbroadcast : (s.fragmentedPackets (s.frameQueue.frameQueueArray
      s.frameQueue.frameQueueFirstIdx.toNat).toNat).isBroadcast = true) :
    s.frameSendingFinished frame status linkIdx =
      ({ s with
          txBit := false
          bcastSeqNoGenerator := s.bcastSeqNoGenerator + 1
          frameQueue := s.frameQueue.removeFirstFwdPacketIndxFromFrameQueue
          txTimerRunning := true },
        [.subFrameFinished frame, .frameSendingFinished frame status]) := by
  rw [LowpanIpv6PacketBeingForwarded.isBroadcast] at hbroadcast
  unfold LowpanForwarderMain.frameSendingFinished
  simp only [hbroadcast, if_true, or_true]
  by_cases hstatus : status = SUCCESS
  · rw [if_pos hstatus, hstatus]
    rfl
  · rw [if_neg hstatus]
    rfl

/-- For another packet the generator does not move. -/
theorem generator_frameSendingFinished {frame : ℕ} (status : ErrorT) (linkIdx : UInt8)
    (hbroadcast : (s.fragmentedPackets (s.frameQueue.frameQueueArray
      s.frameQueue.frameQueueFirstIdx.toNat).toNat).isBroadcast = false) :
    (s.frameSendingFinished frame status linkIdx).1.bcastSeqNoGenerator =
      s.bcastSeqNoGenerator := by
  rw [LowpanIpv6PacketBeingForwarded.isBroadcast] at hbroadcast
  unfold LowpanForwarderMain.frameSendingFinished
  simp only [hbroadcast, Bool.false_eq_true, if_false, or_false]
  split_ifs <;> rfl

theorem frameSendingFinished (h : s.Bc0 sending frames numbers)
    (hinv : s.Inv packets allocated jobs t active) (hpump : s.Pump sending below)
    (hbelow : frame ∈ below) (status : ErrorT) (linkIdx : UInt8) :
    KeepsBc0 (s.frameSendingFinished frame status linkIdx) sending frames numbers := by
  obtain ⟨idx, rest, hlist, hframe, rfl⟩ := hpump.below_cases hbelow
  have hhead := hpump.head_eq hlist
  have hmem : frame ∈ sending :=
    hpump.mem_sending (by rw [hlist]; exact List.mem_cons_self) hframe
  cases hbroadcast : (s.fragmentedPackets idx.toNat).isBroadcast with
  | true =>
    have hsome := h.seqNo idx.toNat frame hframe
    rw [hbroadcast, Option.isSome_iff_exists] at hsome
    obtain ⟨n, hn⟩ := hsome
    obtain rfl := h.current idx.toNat frame n hframe (Or.inr hmem) hn
    have hon : s.isOn = true := by
      by_contra hoff
      have hempty := (hinv.off_empty (Bool.not_eq_true _ ▸ hoff)).2.2.2.2 idx.toNat
      have hin := mem_frames_of_usedFrame hframe
      rw [hempty] at hin
      cases hin
    rw [frameSendingFinished_of_isBroadcast status linkIdx (by rw [hhead]; exact hbroadcast)]
    intro sending' hledger
    have herase : sending.erase frame = sending' := by
      change (LedgerEntry.record sending (.closes frame)).bind _ = _ at hledger
      rw [LedgerEntry.record, if_pos hmem] at hledger
      exact Option.some.inj hledger
    subst herase
    have hnodup : sending.Nodup :=
      hpump.sending_perm.nodup_iff.mpr (hpump.queuedFrames_nodup hinv)
    have hnumbers : [LowpanForwarderAct.subFrameFinished frame,
        .frameSendingFinished frame status].filterMap frames.finished =
          [s.bcastSeqNoGenerator] := by
      rw [List.filterMap_cons_some (show frames.finished (.subFrameFinished frame) = _ from hn)]
      rfl
    rw [hnumbers]
    change Bc0 _ _ frames _
    constructor
    · exact h.flags
    · exact h.seqNo
    · -- No other frame has a number.
      intro j g m hg hcase hm
      have hj : j = idx.toNat := by
        refine h.unique hinv hg hframe ?_ hbroadcast
        rw [← h.seqNo j g hg, hm]
        rfl
      subst hj
      obtain rfl : frame = g := Option.some.inj (hframe.symm.trans hg)
      rcases hcase with hunsent | hsending
      · rw [h.sent frame hmem] at hunsent
        cases hunsent
      · exact absurd hsending hnodup.not_mem_erase
    · exact fun f hf => h.sent f (List.mem_of_mem_erase hf)
    · refine h.chain.append (List.isChain_singleton _) fun m hm m' hm' => ?_
      obtain rfl := Option.some.inj hm'
      exact h.last m hm
    · intro m hm
      rw [List.getLast?_concat] at hm
      obtain rfl := Option.some.inj hm
      rfl
    · intro hoff
      rw [show s.isOn = false from hoff] at hon
      cases hon
  | false =>
    have hnone : frames.seqNo frame = none := by
      have hsome := h.seqNo idx.toNat frame hframe
      rwa [hbroadcast, Option.isSome_eq_false_iff, Option.isNone_iff_eq_none] at hsome
    have hgenerator := @generator_frameSendingFinished s frame status linkIdx
      (by rw [hhead]; exact hbroadcast)
    have hquiet : ∀ act, act = .subFrameFinished frame ∨ (∃ idx ack, act = .reportUnicast idx ack) ∨
        act = .frameSendingFinished frame status → Quiet frames act := by
      rintro act (rfl | ⟨linkIdx, ack, rfl⟩ | rfl)
      · exact ⟨fun _ => by simp [LowpanForwarderAct.sendingEntry], fun _ => rfl, hnone⟩
      · exact ⟨fun _ => by simp [LowpanForwarderAct.sendingEntry], fun _ => rfl, rfl⟩
      · exact ⟨fun _ => by simp [LowpanForwarderAct.sendingEntry], fun _ => rfl, rfl⟩
    obtain ⟨seqNo, reports, hreports, hcase⟩ := s.frameSendingFinished_cases frame status linkIdx
    rcases hcase with heq | ⟨-, -, heq⟩
    · rw [heq] at hgenerator ⊢
      refine keeps (h.congr (fun _ => rfl) (fun _ => rfl) (fun _ => rfl) (fun _ _ _ => rfl)
        hgenerator rfl) fun act hact => hquiet act ?_
      rw [List.cons_append, List.mem_cons, List.mem_append, List.mem_singleton] at hact
      exact hact.imp_right (Or.imp_left (hreports act))
    · rw [heq] at hgenerator ⊢
      refine keeps (congr (h.setRetransmissions _ _) (fun _ => rfl) (fun _ => rfl) (fun _ => rfl)
        (fun _ _ _ => rfl) hgenerator rfl) fun act hact => hquiet act ?_
      rw [List.mem_cons] at hact
      exact hact.imp_right fun hmem => Or.inl (hreports act hmem)

end Bc0

/-! ### After the frame in flight was stopped -/

/-- The bit is set although nothing is in flight. -/
def Stuck (s : LowpanForwarderMain) (below : List ℕ) : Prop :=
  s.isOn = true ∧ s.txBit = true ∧ below = []

/-- Stopping the frame in flight leaves the bit set. -/
theorem Pump.stuck_of_stopSendingFrame (hpump : s.Pump sending below)
    (hinv : s.Inv packets allocated jobs t active) (hbelow : frame ∈ below) :
    (s.stopSendingFrame frame SUCCESS).2.2 = [.subFrameStopped frame, .frameStopped frame] ∧
      (s.stopSendingFrame frame SUCCESS).2.1.Stuck [] := by
  obtain ⟨idx, rest, hlist, hframe, rfl⟩ := hpump.below_cases hbelow
  have hmem : idx ∈ s.frameQueue.toList := by
    rw [hlist]
    exact List.mem_cons_self
  have hon : s.isOn = true := by
    by_contra hoff
    have hempty := (hinv.off_empty (Bool.not_eq_true _ ▸ hoff)).2.2.2.2 idx.toNat
    have hin := mem_frames_of_usedFrame hframe
    rw [hempty] at hin
    cases hin
  have hbit : s.txBit = true := by
    by_contra hclear
    rw [hpump.below_eq, if_neg hclear] at hbelow
    cases hbelow
  have hlt := (hpump.entry idx hmem).1
  have hfind : s.findIndexOfFragmentedPacketWithGivenUsedFrame frame = idx := by
    rcases hinv.findIndex frame with ⟨j, hj, hused, hfind, hidx⟩ | ⟨-, hnone⟩
    · rw [hfind, hinv.usedFrame_inj hj hlt hused hframe]
      exact UInt8.ofNat_toNat
    · exact absurd hframe (hnone idx.toNat hlt)
  have hne : idx ≠ s.maxNumFragmentedPackets := by
    rintro rfl
    exact Nat.lt_irrefl _ hlt
  have hzero : s.frameQueue.findForwardedFrameWithGivenPacketIndex idx = 0 := by
    have hplace := FrameQueue.Valid.find s.frameQueue hpump.valid idx
    rw [if_pos hmem, hlist, List.idxOf_cons_self] at hplace
    exact UInt8.toNat.inj hplace
  have hmax : (0 : UInt8) ≠ s.frameQueue.maxFrameQueueSize := by
    intro heq
    rw [hpump.max] at heq
    rw [← heq] at hlt
    exact Nat.not_lt_zero _ hlt
  have hstop : s.stopSendingFrame frame SUCCESS = (SUCCESS,
      { s with frameQueue := s.frameQueue.removeIthFwdPacketIndxFromFrameQueue 0 },
      [.subFrameStopped frame, .frameStopped frame]) := by
    simp only [LowpanForwarderMain.stopSendingFrame, hfind, if_neg hne, hzero, if_neg hmax]
    rfl
  rw [hstop]
  exact ⟨rfl, hon, hbit, rfl⟩

/-- Then no frame is passed to the lower layer any more, and none is finished by it. -/
theorem Stuck.step (h : s.Stuck below) (hinv : s.Inv packets allocated jobs t active)
    (event : LowpanForwarderEvent)
    (hjob : ∀ packet token status, event = .fragmentingIpv6PacketFinished packet token status →
      jobs token = some ⟨packet, 0⟩)
    (hstop : ∀ frame subStatus, event = .stopSendingFrame frame subStatus → subStatus ≠ SUCCESS)
    (hfinished : ∀ frame status linkIdx, event ≠ .frameSendingFinished frame status linkIdx) :
    (s.step event).1.Stuck below ∧ ∀ act ∈ (s.step event).2, act.belowEntry = .other := by
  obtain ⟨hon, hbit, rfl⟩ := h
  cases event with
  | start frame rand =>
    simp only [LowpanForwarderMain.step, LowpanForwarderMain.start, if_pos hon]
    exact ⟨⟨hon, hbit, rfl⟩, fun act hact => by cases hact⟩
  | startForwardingIpv6Packet packet llAddr =>
    simp only [LowpanForwarderMain.step, startForwardingIpv6Packet]
    split_ifs
    · exact ⟨⟨hon, hbit, rfl⟩, fun act hact => by cases hact⟩
    · split
      · exact ⟨⟨hon, hbit, rfl⟩, fun act hact => by cases hact⟩
      · refine ⟨⟨hon, hbit, rfl⟩, fun act hact => ?_⟩
        obtain rfl := List.mem_singleton.mp hact
        rfl
  | stopForwardingIpv6Packet packet fragStatus =>
    refine ⟨?_, fun act hact => by cases hact⟩
    simp only [LowpanForwarderMain.step, stopForwardingIpv6Packet]
    split
    · exact ⟨hon, hbit, rfl⟩
    · obtain ⟨queue, posted, heq⟩ := Inv.stopForwardingNonfragmentedPacket_eq s packet ECANCEL
      rw [heq]
      exact ⟨hon, hbit, rfl⟩
  | processStagedPacketsTask frame fragToken =>
    have hother : ∀ act ∈ s.allocActs frame, act.belowEntry = .other := by
      intro act hact
      rw [allocActs] at hact
      split_ifs at hact
      · obtain ⟨f, -, rfl⟩ := List.mem_map.mp hact
        rfl
      · cases hact
    rw [LowpanForwarderMain.step]
    rcases hinv.processStagedPacketsTask_cases frame fragToken with
      ⟨-, htask⟩ | ⟨p, -, -, ⟨-, htask⟩ | ⟨f, -, -, htask⟩⟩
    · rw [htask]
      exact ⟨⟨hon, hbit, rfl⟩, fun act hact => by cases hact⟩
    · rw [htask]
      exact ⟨⟨hon, hbit, rfl⟩, hother⟩
    · rw [htask]
      refine ⟨⟨hon, hbit, rfl⟩, fun act hact => ?_⟩
      rcases List.mem_append.mp hact with hact | hact
      · exact hother act hact
      · obtain rfl := List.mem_singleton.mp hact
        rfl
  | frameForFragmentedPacketRequested token answers =>
    simp only [LowpanForwarderMain.step, frameForFragmentedPacketRequested]
    split
    · split_ifs
      · exact ⟨⟨hon, hbit, rfl⟩, fun act hact => by cases hact⟩
      · refine ⟨⟨hon, hbit, rfl⟩, fun act hact => ?_⟩
        obtain rfl := List.mem_singleton.mp hact
        rfl
      · refine ⟨⟨hon, hbit, rfl⟩, fun act hact => ?_⟩
        obtain rfl := List.mem_singleton.mp hact
        rfl
    · exact ⟨⟨hon, hbit, rfl⟩, fun act hact => by cases hact⟩
  | frameForFragmentedPacketReleased token frame =>
    simp only [LowpanForwarderMain.step, frameForFragmentedPacketReleased]
    split
    · refine ⟨⟨hon, hbit, rfl⟩, fun act hact => ?_⟩
      rcases List.mem_cons.mp hact with rfl | hact
      · rfl
      · obtain rfl := List.mem_singleton.mp hact
        rfl
    · refine ⟨⟨hon, hbit, rfl⟩, fun act hact => ?_⟩
      obtain rfl := List.mem_singleton.mp hact
      rfl
  | fragmentingIpv6PacketFinished packet token status =>
    obtain ⟨i, p, allocated', jobs', rfl, -, -, -, hacts, -⟩ :=
      hinv.fragmentingIpv6PacketFinished (hjob packet token status rfl) status
    obtain ⟨-, -, hon', hbit'⟩ :=
      Bc0.fragmentingIpv6PacketFinished_entries s packet i status
    refine ⟨⟨hon'.trans hon, hbit'.trans hbit, rfl⟩, fun act hact => ?_⟩
    rw [LowpanForwarderMain.step] at hact
    rcases hacts with ⟨heq, -⟩ | ⟨f, -, heq, -⟩ <;> rw [heq] at hact
    · obtain rfl := List.mem_singleton.mp hact
      rfl
    · rcases List.mem_cons.mp hact with rfl | hact
      · rfl
      · obtain rfl := List.mem_singleton.mp hact
        rfl
  | processCompletedPacketsTask =>
    simp only [LowpanForwarderMain.step, processCompletedPacketsTask]
    split
    · exact ⟨⟨hon, hbit, rfl⟩, fun act hact => by cases hact⟩
    · refine ⟨⟨hon, hbit, rfl⟩, fun act hact => ?_⟩
      obtain rfl := List.mem_singleton.mp hact
      rfl
  | processCompletedPacketsTaskReturn =>
    exact ⟨⟨hon, hbit, rfl⟩, fun act hact => by cases hact⟩
  | startSendingFrame frame =>
    simp only [LowpanForwarderMain.step, startSendingFrame]
    split
    · exact ⟨⟨hon, hbit, rfl⟩, fun act hact => by cases hact⟩
    · refine ⟨?_, fun act hact => ?_⟩
      · dsimp only
        split_ifs <;> exact ⟨hon, hbit, rfl⟩
      · obtain rfl := List.mem_singleton.mp hact
        rfl
  | stopSendingFrame frame subStatus =>
    have hne := hstop frame subStatus rfl
    simp only [LowpanForwarderMain.step, LowpanForwarderMain.stopSendingFrame]
    split_ifs with h1 h2 h3 h4
    · exact ⟨⟨hon, hbit, rfl⟩, fun act hact => by cases hact⟩
    · exact ⟨⟨hon, hbit, rfl⟩, fun act hact => by cases hact⟩
    · exact ⟨⟨hon, hbit, rfl⟩, fun act hact => by cases hact⟩
    · exact absurd ⟨h4, hne⟩ h3
    · refine ⟨⟨hon, hbit, rfl⟩, fun act hact => ?_⟩
      obtain rfl := List.mem_singleton.mp hact
      rfl
  | txTimerFired => exact ⟨⟨hon, hbit, rfl⟩, fun act hact => by cases hact⟩
  | processEnqueuedFramesTask subStatus =>
    rw [LowpanForwarderMain.step, processEnqueuedFramesTask, if_pos (Or.inl hbit)]
    exact ⟨⟨hon, hbit, rfl⟩, fun act hact => by cases hact⟩
  | frameSendingFinished frame status linkIdx =>
    exact absurd rfl (hfinished frame status linkIdx)

end LowpanForwarderMain

/-! ## Runs -/

/-- Every step that may be taken keeps the invariant, for what the peers know then. -/
theorem LowpanForwarderWorld.inv_step {w : LowpanForwarderWorld} {event : LowpanForwarderEvent}
    {t : StagingQueueLists} {active : ℕ → Option StagedPacket}
    (h : w.forwarder.Inv w.peers.packets w.peers.allocated w.peers.jobs t active)
    (hallowed : w.Allowed event) :
    let w' := (w.step event).1
    ∃ t' active', w'.forwarder.Inv w'.peers.packets w'.peers.allocated w'.peers.jobs t'
      active' := by
  obtain ⟨packets', allocated', jobs', t', active', hpackets, hallocated, hjobs, hinv, -⟩ :=
    forwarder_keeps h hallowed
  refine ⟨t', active', ?_⟩
  simp only [LowpanForwarderWorld.step, LowpanForwarderPeers.observe, hpackets, hallocated, hjobs,
    Option.getD_some]
  exact hinv

namespace Bc0World

variable {b : Bc0World} {event : LowpanForwarderEvent} {numbers : List UInt8}

theorem forwarder_keepsBc0 {t : StagingQueueLists} {active : ℕ → Option StagedPacket}
    (h : b.world.forwarder.Bc0 b.world.peers.sending b.frames numbers)
    (hinv : b.world.forwarder.Inv b.world.peers.packets b.world.peers.allocated
      b.world.peers.jobs t active)
    (hpump : b.world.forwarder.Pump b.world.peers.sending b.world.peers.below)
    (hallowed : b.Allowed event) :
    LowpanForwarderMain.KeepsBc0 (b.world.forwarder.step event) b.world.peers.sending b.frames
      numbers := by
  obtain ⟨hallowed, hunsent⟩ := hallowed
  cases event with
  | start frame rand => exact h.start hinv hallowed rand
  | startForwardingIpv6Packet packet llAddr =>
    exact h.startForwardingIpv6Packet hinv hallowed llAddr
  | stopForwardingIpv6Packet packet fragStatus =>
    exact h.stopForwardingIpv6Packet hinv packet fragStatus
  | processStagedPacketsTask frame fragToken =>
    exact h.processStagedPacketsTask hinv frame fragToken
  | frameForFragmentedPacketRequested token answers =>
    exact h.frameForFragmentedPacketRequested hinv hpump hallowed answers
  | frameForFragmentedPacketReleased token frame =>
    exact h.frameForFragmentedPacketReleased token frame
  | fragmentingIpv6PacketFinished packet token status =>
    exact h.fragmentingIpv6PacketFinished hinv hallowed status
  | processCompletedPacketsTask => exact h.processCompletedPacketsTask
  | processCompletedPacketsTaskReturn => exact h.processCompletedPacketsTaskReturn hinv hallowed
  | startSendingFrame frame => exact h.startSendingFrame frame hunsent
  | stopSendingFrame frame subStatus => exact h.stopSendingFrame frame subStatus
  | txTimerFired => exact h.txTimerFired
  | processEnqueuedFramesTask subStatus => exact h.processEnqueuedFramesTask subStatus
  | frameSendingFinished frame status linkIdx =>
    exact h.frameSendingFinished hinv hpump hallowed status linkIdx

/-- The numbers so far are consecutive, and while frames are sent the next one will be. -/
def Numbered (b : Bc0World) (numbers : List UInt8) : Prop :=
  (∃ t active, b.world.forwarder.Inv b.world.peers.packets b.world.peers.allocated
    b.world.peers.jobs t active) ∧
  (b.world.forwarder.Pump b.world.peers.sending b.world.peers.below ∧
      b.world.forwarder.Bc0 b.world.peers.sending b.frames numbers ∨
    b.world.forwarder.Stuck b.world.peers.below ∧ numbers.IsChain fun n n' => n' = n + 1)

theorem Numbered.step (h : b.Numbered numbers) (hallowed : b.Allowed event) :
    (b.step event).1.Numbered (numbers ++ (b.step event).2) := by
  obtain ⟨⟨t, active, hinv⟩, hcase⟩ := h
  refine ⟨LowpanForwarderWorld.inv_step hinv hallowed.1, ?_⟩
  rcases hcase with ⟨hpump, hbc0⟩ | ⟨hstuck, hchain⟩
  · by_cases hflying : b.world.KeepsFlying event
    · obtain ⟨sending', below', hsending, hbelow, hpump'⟩ :=
        LowpanForwarderWorld.forwarder_keepsPump hpump hinv hallowed.1 hflying
      have hbc0' := forwarder_keepsBc0 hbc0 hinv hpump hallowed sending' hsending
      simp only [Bc0World.step, LowpanForwarderWorld.step, LowpanForwarderPeers.observe, hsending,
        hbelow, Option.getD_some]
      exact Or.inl ⟨hpump', hbc0'⟩
    · obtain ⟨frame, hevent, hbelow⟩ : ∃ frame, event = .stopSendingFrame frame SUCCESS ∧
          frame ∈ b.world.peers.below := by
        cases event with
        | stopSendingFrame frame subStatus =>
          rw [LowpanForwarderWorld.KeepsFlying] at hflying
          push Not at hflying
          exact ⟨frame, by rw [hflying.2], hflying.1⟩
        | _ => exact absurd trivial hflying
      subst hevent
      obtain ⟨hacts, hstuck⟩ := hpump.stuck_of_stopSendingFrame hinv hbelow
      obtain ⟨-, -, -, -, hsingle⟩ := hpump.below_cases hbelow
      have hbelow' : ledger LowpanForwarderAct.belowEntry [frame]
          [.subFrameStopped frame, .frameStopped frame] = some [] := by
        simp [ledger, LowpanForwarderAct.belowEntry]
      refine Or.inr ⟨?_, ?_⟩
      · simp only [Bc0World.step, LowpanForwarderWorld.step, LowpanForwarderPeers.observe,
          LowpanForwarderMain.step, hacts, hsingle, hbelow', Option.getD_some]
        exact hstuck
      · simp only [Bc0World.step, LowpanForwarderWorld.step, LowpanForwarderMain.step, hacts]
        have hnone : [LowpanForwarderAct.subFrameStopped frame, .frameStopped frame].filterMap
            b.frames.finished = [] := rfl
        rw [hnone, List.append_nil]
        exact hbc0.chain
  · obtain ⟨hstuck', hother⟩ := hstuck.step hinv event
      (fun packet token status heq => by subst heq; exact hallowed.1)
      (fun frame subStatus heq => by
        subst heq
        refine hallowed.1 ?_
        rw [hstuck.2.2]
        exact List.not_mem_nil)
      (fun frame status linkIdx heq => by
        subst heq
        have hmem : frame ∈ b.world.peers.below := hallowed.1
        rw [hstuck.2.2] at hmem
        cases hmem)
    refine Or.inr ⟨?_, ?_⟩
    · simp only [Bc0World.step, LowpanForwarderWorld.step, LowpanForwarderPeers.observe,
        ledger_of_other hother, Option.getD_some]
      exact hstuck'
    · have hnone : (b.world.forwarder.step event).2.filterMap b.frames.finished = [] := by
        refine List.filterMap_eq_nil_iff.mpr fun act hact => ?_
        have hact' := hother act hact
        cases act with
        | subFrameFinished frame => cases hact'
        | _ => rfl
      change (numbers ++ (b.world.forwarder.step event).2.filterMap b.frames.finished).IsChain _
      rw [hnone, List.append_nil]
      exact hchain

/-- A world whose memory is zeroed, with two elements for packets, two tokens and small frames. -/
def zeroed : Bc0World := ⟨.zeroed, ⟨fun _ => none, fun _ => false⟩⟩

end Bc0World

section Results

variable (maxNumStagedPackets maxNumFragmentedPackets : UInt8)
  (elems : ℕ → LowpanIpv6PacketReadyForForwarding) (hdrs : LowpanUnpackedFrameHeaders)
  (frames : ℕ → Ieee154DframeInfo) (events : List LowpanForwarderEvent)

/-- The frames with a BC0 header that the lower layer finishes have consecutive numbers, modulo
256. -/
theorem lowpanForwarder_bc0Consecutive
    (hallowed : RunMeets Bc0World.step Bc0World.Allowed
      (.initial maxNumStagedPackets maxNumFragmentedPackets elems hdrs frames) events) :
    (run Bc0World.step (.initial maxNumStagedPackets maxNumFragmentedPackets elems hdrs frames)
      events).2.IsChain fun seqNo seqNo' => seqNo' = seqNo + 1 := by
  have hinitial : (Bc0World.initial maxNumStagedPackets maxNumFragmentedPackets elems hdrs
      frames).Numbered [] := by
    refine ⟨⟨_, _, (LowpanForwarderWorld.inv_initial _ _ _ _ _).forwarder⟩,
      Or.inl ⟨(LowpanForwarderWorld.sends_initial _ _ _ _ _).pump, ?_⟩⟩
    exact ⟨fun i elem helem => (by cases helem), fun i f hf => (by cases hf),
      fun i f n hf => (by cases hf), fun f hf => (by cases hf), List.isChain_nil,
      fun n hn => (by cases hn), fun _ => rfl⟩
  obtain ⟨-, ⟨-, hbc0⟩ | ⟨-, hchain⟩⟩ := run_invariant
    (fun b numbers event hallowed hnumbered => Bc0World.Numbered.step hnumbered hallowed) hinitial
    hallowed
  · rw [List.nil_append] at hbc0
    exact hbc0.chain
  · rw [List.nil_append] at hchain
    exact hchain

/-- A packet that is broadcast in two frames, of which the second is not acknowledged. -/
theorem lowpanForwarder_bc0Consecutive_two :
    let events : List LowpanForwarderEvent :=
      [.start (some 0) 0x0500, .startForwardingIpv6Packet 10 (.shrt #v[0xff, 0xff]),
        .processStagedPacketsTask none 1,
        .frameForFragmentedPacketRequested 1 ⟨.shrt #v[2, 0], #v[7, 7], 0, 3⟩,
        .startSendingFrame 0, .txTimerFired, .processEnqueuedFramesTask SUCCESS,
        .frameSendingFinished 0 SUCCESS 0, .frameForFragmentedPacketReleased 1 0,
        .frameForFragmentedPacketRequested 1 ⟨.shrt #v[2, 0], #v[7, 7], 1, 3⟩,
        .startSendingFrame 0, .txTimerFired, .processEnqueuedFramesTask SUCCESS,
        .frameSendingFinished 0 ENOACK 0]
    let r := run Bc0World.step Bc0World.zeroed events
    r.2 = [5, 6] ∧ r.2.IsChain fun seqNo seqNo' => seqNo' = seqNo + 1 := by
  intro events r
  have hallowed : RunMeets Bc0World.step Bc0World.Allowed Bc0World.zeroed events := by
    refine ⟨⟨fun f _ hf => (by cases hf), trivial⟩, ⟨fun hp => (by cases hp), trivial⟩,
      ⟨⟨rfl, rfl, fun f hf => (by cases hf), fun _ => ⟨by decide, rfl⟩⟩, trivial⟩,
      ⟨fun hjob => (by cases hjob), trivial⟩,
      ⟨⟨⟨1, ⟨10, {0}⟩, rfl, Multiset.mem_singleton_self 0⟩, fun hmem => (by cases hmem)⟩, rfl⟩,
      ⟨rfl, trivial⟩, ⟨⟨rfl, rfl⟩, trivial⟩, ⟨List.mem_singleton_self 0, trivial⟩,
      ⟨⟨⟨⟨10, {0}⟩, rfl, Multiset.mem_singleton_self 0⟩, fun hmem => (by cases hmem)⟩, trivial⟩,
      ⟨fun hjob => (by cases hjob), trivial⟩,
      ⟨⟨⟨1, ⟨10, {0}⟩, rfl, Multiset.mem_singleton_self 0⟩, fun hmem => (by cases hmem)⟩, rfl⟩,
      ⟨rfl, trivial⟩, ⟨⟨rfl, rfl⟩, trivial⟩, ⟨List.mem_singleton_self 0, trivial⟩, trivial⟩
  exact ⟨rfl, lowpanForwarder_bc0Consecutive 2 2 _ _ _ events hallowed⟩

end Results

end Whip6
