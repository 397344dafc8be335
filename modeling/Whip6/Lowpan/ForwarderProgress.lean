import Whip6.Lowpan.ForwarderInvariant

/-!
# What the packets of the packet forwarder wait for

Every step of the forwarder that its peers allow keeps the invariant (`Inv.step`).  When the task
that processes staged packets is not posted, a staged packet should wait for a job of the fragmenter
(`LowpanForwarderMain.Progress`).  Two steps may leave one that does not: the task gives up when the
fragmenter refuses a packet for another reason than that it has no token left, and the end of a
fragmentation does not post the task.  `Resumes` excludes these; the other steps keep `Progress`.
-/

namespace Whip6

open Lib

namespace LowpanForwarderMain

/-- A staged packet waits for a job of the fragmenter: one with its address, or any of them when
there is no frame or no token left. -/
def Waits (s : LowpanForwarderMain) (active : ℕ → Option StagedPacket) (p : StagedPacket) : Prop :=
  ∃ i q, active i = some q ∧ (q.addr = p.addr ∨ s.freeFrame = none ∨
    ∀ j < s.maxNumFragmentedPackets.toNat, active j ≠ none)

structure Progress (s : LowpanForwarderMain) (t : StagingQueueLists)
    (active : ℕ → Option StagedPacket) : Prop where
  busy : s.isOn = true → s.freeFrame = none → ∃ i, active i ≠ none
  waits : s.processStagedPacketsTaskPosted = false → ∀ p ∈ t.staged, s.Waits active p

/-- The steps after which no staged packet is left without anything to wait for. -/
def Resumes (s : LowpanForwarderMain) : LowpanForwarderEvent → Prop
  | .processStagedPacketsTask frame fragToken =>
    s.stagedElemToStart ≠ none → s.freeFrame.or frame ≠ none → fragToken = 0 →
      0 < s.maxNumFragmentedPackets.toNat ∧
        ∀ i < s.maxNumFragmentedPackets.toNat, (s.fragmentedPackets i).stagingQueueElem ≠ none
  | .fragmentingIpv6PacketFinished _ token _ =>
    s.processStagedPacketsTaskPosted = true ∨
      ∀ elem ∈ s.stagedPacketQueue.stagedElems,
        (s.fragmentedPackets (token - 1)).stagingQueueElem = some elem ∨
          ∃ i ≠ token - 1, ∃ elem', (s.fragmentedPackets i).stagingQueueElem = some elem' ∧
            s.addrOf elem' = s.addrOf elem
  | _ => True

/-- What comes out of a step keeps the invariant, for what the peers know then; under a condition
also what the packets wait for. -/
def Keeps (s : LowpanForwarderMain) (r : LowpanForwarderMain × List LowpanForwarderAct)
    (packets allocated : List ℕ) (jobs : FragmenterJobs) (t : StagingQueueLists)
    (active : ℕ → Option StagedPacket) (cond : Prop) : Prop :=
  ∃ packets' allocated' jobs' t' active',
    ledger LowpanForwarderAct.packetEntry packets r.2 = some packets' ∧
    ledger LowpanForwarderAct.frameEntry allocated r.2 = some allocated' ∧
    jobs.run (r.2.filterMap LowpanForwarderAct.fragmenterAct) = some jobs' ∧
    r.1.Inv packets' allocated' jobs' t' active' ∧
    (cond → s.Progress t active → r.1.Progress t' active')

variable {s s' : LowpanForwarderMain} {packets allocated : List ℕ} {jobs : FragmenterJobs}
  {t t' : StagingQueueLists} {active : ℕ → Option StagedPacket}
  {r : LowpanForwarderMain × List LowpanForwarderAct} {cond : Prop}

/-- Fewer packets are staged, and the frames and the entries are as they were. -/
theorem Progress.congr (h : s.Progress t active) (hon : s'.isOn = s.isOn)
    (hfree : s'.freeFrame = s.freeFrame)
    (hmax : s'.maxNumFragmentedPackets = s.maxNumFragmentedPackets)
    (hposted : s'.processStagedPacketsTaskPosted = s.processStagedPacketsTaskPosted)
    (hstaged : ∀ p ∈ t'.staged, p ∈ t.staged) : s'.Progress t' active where
  busy := by
    rw [hon, hfree]
    exact h.busy
  waits := by
    intro hpost p hp
    rw [hposted] at hpost
    obtain ⟨i, q, hq, hcase⟩ := h.waits hpost p (hstaged p hp)
    exact ⟨i, q, hq, by rw [hfree, hmax]; exact hcase⟩

/-- A task that was posted just now leaves nothing to be shown of the packets. -/
theorem Progress.of_posted (hposted : s'.processStagedPacketsTaskPosted = true)
    (hbusy : s'.isOn = true → s'.freeFrame = none → ∃ i, active i ≠ none) :
    s'.Progress t active where
  busy := hbusy
  waits hpost := absurd (hposted.symm.trans hpost) (by decide)

theorem staged_complete {packet : ℕ} {status : UInt8} :
    (t.complete packet status).staged = t.staged.eraseP (·.packet == packet) := by
  unfold StagingQueueLists.complete
  split
  · rename_i hnone
    rw [List.find?_eq_none] at hnone
    exact (List.eraseP_of_forall_not hnone).symm
  · rfl

namespace Inv

/-- Acts that the ledgers and the fragmenter do not see. -/
theorem keeps (h : r.1.Inv packets allocated jobs t' active)
    (hacts : ∀ act ∈ r.2, act.packetEntry = .other ∧ act.frameEntry = .other ∧
      act.fragmenterAct = none)
    (hprogress : cond → s.Progress t active → r.1.Progress t' active) :
    Keeps s r packets allocated jobs t active cond := by
  refine ⟨packets, allocated, jobs, t', active,
    ledger_of_other fun act hact => (hacts act hact).1,
    ledger_of_other fun act hact => (hacts act hact).2.1, ?_, h, hprogress⟩
  rw [List.filterMap_eq_nil_iff.mpr fun act hact => (hacts act hact).2.2]
  rfl

theorem keeps_start (h : s.Inv packets allocated jobs t active) {frame : Option ℕ}
    (hframe : ∀ f, frame = some f → f ∉ allocated) (rand : UInt16) :
    Keeps s (s.start frame rand).2 packets allocated jobs t active cond := by
  obtain ⟨allocated', t', hinv, hframes, hstaged, hacts⟩ := h.start hframe rand
  refine ⟨packets, allocated', jobs, t', active,
    ledger_of_other fun act hact => (hacts act hact).1, hframes, ?_, hinv, fun _ hprogress => ?_⟩
  · rw [List.filterMap_eq_nil_iff.mpr fun act hact => (hacts act hact).2]
    rfl
  · by_cases hon : s.isOn = true
    · rw [LowpanForwarderMain.start, if_pos hon]
      exact hprogress.congr rfl rfl rfl rfl hstaged
    · have hnil := (h.off_empty (Bool.not_eq_true _ ▸ hon)).1
      refine ⟨fun hon' hfree => ?_, fun _ p hp => ?_⟩
      · rw [LowpanForwarderMain.start, if_neg hon] at hon' hfree
        cases frame with
        | none => exact absurd hon' hon
        | some f => cases hfree
      · have hmem := hstaged p hp
        rw [hnil] at hmem
        cases hmem

theorem keeps_startForwardingIpv6Packet (h : s.Inv packets allocated jobs t active) {packet : ℕ}
    (hpacket : packet ∉ packets) (llAddr : Ieee154Addr) :
    Keeps s (s.startForwardingIpv6Packet packet llAddr).2 packets allocated jobs t active cond := by
  unfold LowpanForwarderMain.startForwardingIpv6Packet
  by_cases hon : s.isOn = true
  · rw [if_neg (by rw [hon]; decide)]
    cases henqueue : lowpanPacketForwardingStagingQueueEnqueuePacket s.stagedPacketQueue packet
        llAddr with
    | mk elem queue =>
      cases elem with
      | none => exact h.keeps (fun act hact => by cases hact) fun _ hprogress => hprogress
      | some e =>
        exact ⟨packet :: packets, allocated, jobs, _, active, rfl, rfl, rfl,
          h.enqueue hpacket hon henqueue, fun _ hprogress => .of_posted rfl hprogress.busy⟩
  · rw [if_pos (by rw [Bool.not_eq_true] at hon; rw [hon]; rfl)]
    exact h.keeps (fun act hact => by cases hact) fun _ hprogress => hprogress

/-- Completing a packet changes the queue of packets and posts the task, and nothing else. -/
theorem stopForwardingNonfragmentedPacket_eq (s : LowpanForwarderMain) (packet : ℕ)
    (status : ErrorT) :
    ∃ queue posted, (s.stopForwardingNonfragmentedPacket packet status).2 =
      { s with stagedPacketQueue := queue, processCompletedPacketsTaskPosted := posted } := by
  unfold stopForwardingNonfragmentedPacket
  split
  · exact ⟨_, _, rfl⟩
  · split
    · exact ⟨s.stagedPacketQueue, s.processCompletedPacketsTaskPosted, rfl⟩
    · exact ⟨s.stagedPacketQueue, s.processCompletedPacketsTaskPosted, rfl⟩

/-- A packet without an entry is not active. -/
theorem not_active_of_find (h : s.Inv packets allocated jobs t active) {packet : ℕ}
    (hfind : s.findFragmentedPacket packet = none) :
    ∀ i p, active i = some p → p.packet ≠ packet := by
  intro i p hp heq
  rw [findFragmentedPacket, List.find?_eq_none] at hfind
  have hi := hfind i (List.mem_range.mpr (h.staged i p hp).2)
  rw [h.elem i, hp, Option.map_some] at hi
  exact hi (beq_iff_eq.mpr ((h.holds_active hp).1.trans heq))

theorem keeps_stopForwardingIpv6Packet (h : s.Inv packets allocated jobs t active) (packet : ℕ)
    (fragStatus : ErrorT) :
    Keeps s ((s.stopForwardingIpv6Packet packet fragStatus).2, []) packets allocated jobs t active
      cond := by
  unfold LowpanForwarderMain.stopForwardingIpv6Packet
  cases hfind : s.findFragmentedPacket packet with
  | some i => exact h.keeps (fun act hact => by cases hact) fun _ hprogress => hprogress
  | none =>
    obtain ⟨queue, posted, heq⟩ := stopForwardingNonfragmentedPacket_eq s packet ECANCEL
    refine (h.complete packet ECANCEL (h.not_active_of_find hfind)).keeps (fun act hact => by cases hact)
      fun _ hprogress => ?_
    rw [heq]
    refine hprogress.congr rfl rfl rfl rfl fun p hp => ?_
    rw [staged_complete] at hp
    exact List.mem_of_mem_eraseP hp

/-- The first staged element to start is there when some staged packet has an address for itself. -/
theorem stagedElemToStart_ne_none (h : s.Inv packets allocated jobs t active) {p : StagedPacket}
    (hp : p ∈ t.staged) (haddr : ∀ i q, active i = some q → q.addr ≠ p.addr) :
    s.stagedElemToStart ≠ none := by
  rw [h.stagedElemToStart_eq, Ne, Option.map_eq_none_iff, List.find?_eq_none]
  intro hnone
  exact hnone p hp ((h.findFragmented_isNone_iff hp).mpr haddr)

theorem keeps_processStagedPacketsTask (h : s.Inv packets allocated jobs t active)
    {frame : Option ℕ} {fragToken : ℕ} (hframe : ∀ f, frame = some f → f ∉ allocated)
    (htoken : fragToken ≠ 0 →
      fragToken ≤ s.maxNumFragmentedPackets.toNat ∧ jobs fragToken = none) :
    Keeps s (s.processStagedPacketsTask frame fragToken) packets allocated jobs t active
      (s.Resumes (.processStagedPacketsTask frame fragToken)) := by
  rcases h.processStagedPacketsTask_cases frame fragToken with ⟨hall, htask⟩ | ⟨p, hp, haddr, hcase⟩
  · rw [htask]
    have hinv : ({ s with processStagedPacketsTaskPosted := false } : LowpanForwarderMain).Inv
        packets allocated jobs t active :=
      h.congr rfl rfl (fun _ => rfl) (fun _ => rfl) (fun _ => rfl) rfl rfl rfl rfl
    refine hinv.keeps (fun act hact => by cases hact) fun _ hprogress => ⟨hprogress.busy, ?_⟩
    intro _ q hq
    obtain ⟨i, r, hr, heq⟩ := hall q hq
    exact ⟨i, r, hr, Or.inl heq⟩
  have hon : s.isOn = true := by
    by_contra hoff
    rw [(h.off_empty (Bool.not_eq_true _ ▸ hoff)).1] at hp
    cases hp
  obtain ⟨allocated', hledger, hinv⟩ := h.allocate hon hframe
  have hother : ∀ act ∈ s.allocActs frame,
      act.packetEntry = .other ∧ act.fragmenterAct = none := by
    intro act hact
    rw [allocActs] at hact
    split_ifs at hact
    · obtain ⟨f, -, rfl⟩ := List.mem_map.mp hact
      exact ⟨rfl, rfl⟩
    · cases hact
  have hjobs : (s.allocActs frame).filterMap LowpanForwarderAct.fragmenterAct = [] :=
    List.filterMap_eq_nil_iff.mpr fun act hact => (hother act hact).2
  rcases hcase with ⟨hfail, htask⟩ | ⟨f, hfree, hne, htask⟩
  · rw [htask]
    refine ⟨packets, allocated', jobs, t, active,
      ledger_of_other fun act hact => (hother act hact).1, hledger, by rw [hjobs]; rfl,
      hinv.congr rfl rfl (fun _ => rfl) (fun _ => rfl) (fun _ => rfl) rfl rfl rfl rfl,
      fun hresumes hprogress => ?_⟩
    have hnone : s.freeFrame.or frame = none → ∃ i q, active i = some q := by
      intro hor
      obtain ⟨i, hi⟩ := hprogress.busy hon (Option.or_eq_none_iff.mp hor).1
      exact ⟨i, Option.ne_none_iff_exists'.mp hi⟩
    refine ⟨fun _ hor => ?_, fun _ q _ => ?_⟩
    · obtain ⟨i, r, hr⟩ := hnone hor
      exact ⟨i, by rw [hr]; exact Option.some_ne_none r⟩
    · by_cases hor : s.freeFrame.or frame = none
      · obtain ⟨i, r, hr⟩ := hnone hor
        exact ⟨i, r, hr, Or.inr (Or.inl hor)⟩
      · have hzero : fragToken = 0 := hfail.resolve_left hor
        obtain ⟨hpos, hfull⟩ := hresumes (h.stagedElemToStart_ne_none hp haddr) hor hzero
        have hactive : ∀ i < s.maxNumFragmentedPackets.toNat, active i ≠ none := by
          intro i hi hnone
          exact hfull i hi (by rw [h.elem i, hnone]; rfl)
        obtain ⟨r, hr⟩ := Option.ne_none_iff_exists'.mp (hactive 0 hpos)
        exact ⟨0, r, hr, Or.inr (Or.inr hactive)⟩
  · obtain ⟨hle, hjob⟩ := htoken hne
    obtain ⟨i, rfl⟩ := Nat.exists_eq_add_one_of_ne_zero hne
    have hbegin := hinv.begin hp haddr hfree (Nat.lt_of_succ_le hle) hjob
      (if ieee154AddrAnyIsBroadcast p.addr then FRAGMENTED_PACKET_FLAG_BROADCAST else 0)
    rw [htask]
    refine ⟨packets, allocated', _, t, _, ?_, ?_, ?_,
      hbegin.congr rfl rfl (fun _ => rfl) (fun _ => rfl) (fun _ => rfl) rfl rfl rfl rfl,
      fun _ _ => .of_posted rfl fun _ _ => ⟨i, ?_⟩⟩
    · rw [ledger_append, ledger_of_other fun act hact => (hother act hact).1]
      rfl
    · rw [ledger_append, hledger]
      rfl
    · rw [List.filterMap_append, hjobs]
      change (jobs.step (.started (i + 1) p.packet)).bind _ = _
      rw [FragmenterJobs.step, hjob]
      rfl
    · rw [Function.update_self]
      exact Option.some_ne_none p

theorem keeps_frameForFragmentedPacketRequested (h : s.Inv packets allocated jobs t active)
    {token : ℕ} (htoken : jobs token ≠ none) (answers : FrameRequestAnswers) :
    Keeps s (s.frameForFragmentedPacketRequested token answers).2 packets allocated jobs t active
      cond := by
  obtain ⟨jobs', hinv, hcase⟩ := h.frameForFragmentedPacketRequested htoken answers
  have hprogress : s.Progress t active →
      (s.frameForFragmentedPacketRequested token answers).2.1.Progress t active := by
    intro hprogress
    refine hprogress.congr ?_ ?_ ?_ ?_ fun p hp => hp
    all_goals
      unfold LowpanForwarderMain.frameForFragmentedPacketRequested
      dsimp only
      split
      · split_ifs <;> rfl
      · rfl
  rcases hcase with ⟨hacts, rfl⟩ | ⟨frame, hacts, hstep⟩
  · refine ⟨packets, allocated, jobs', t, active, ?_, ?_, ?_, hinv, fun _ => hprogress⟩
    all_goals rw [hacts]; rfl
  · refine ⟨packets, allocated, jobs', t, active, ?_, ?_, ?_, hinv, fun _ => hprogress⟩
    · rw [hacts]; rfl
    · rw [hacts]; rfl
    · rw [hacts]
      change (jobs.step _).bind _ = _
      rw [hstep]
      rfl

theorem keeps_frameForFragmentedPacketReleased (h : s.Inv packets allocated jobs t active)
    {token frame : ℕ} {job : FragmenterJob} (hjob : jobs token = some job)
    (hframe : frame ∈ job.held) :
    Keeps s (s.frameForFragmentedPacketReleased token frame) packets allocated jobs t active
      cond := by
  obtain ⟨jobs', hinv, hacts, hstep⟩ := h.frameForFragmentedPacketReleased hjob hframe
  refine ⟨packets, allocated, jobs', t, active, ?_, ?_, ?_, hinv, fun _ hprogress => ?_⟩
  · rw [hacts]; rfl
  · rw [hacts]; rfl
  · rw [hacts]
    change (jobs.step _).bind _ = _
    rw [hstep]
    rfl
  · refine hprogress.congr ?_ ?_ ?_ ?_ fun p hp => hp
    all_goals
      unfold LowpanForwarderMain.frameForFragmentedPacketReleased
      dsimp only
      split <;> rfl

/-- What is left of the staged packets after one of them was completed. -/
theorem mem_staged_complete (h : s.Inv packets allocated jobs t active) {p q : StagedPacket}
    {status : ErrorT} (hp : p ∈ t.staged) (hq : q ∈ (t.complete p.packet status).staged) :
    q ∈ t.staged ∧ q.elem ≠ p.elem := by
  rw [staged_complete] at hq
  have hmem := List.mem_of_mem_eraseP hq
  refine ⟨hmem, fun helem => ?_⟩
  have hpacket : q.packet = p.packet := by
    rw [← (h.holds (List.mem_append_left _ hmem)).1, ← (h.holds (List.mem_append_left _ hp)).1,
      helem]
  have hnodup := h.pending_nodup
  rw [pendingOf, List.map_append] at hnodup
  have herase : q.packet ∈ (t.staged.map StagedPacket.packet).erase p.packet := by
    rw [List.erase_eq_eraseP', List.eraseP_map]
    exact List.mem_map_of_mem hq
  rw [(List.nodup_append.mp hnodup).1.mem_erase_iff] at herase
  exact herase.1 hpacket

/-- The end of a fragmentation leaves a free frame, and does not post the task. -/
theorem fragmentingIpv6PacketFinished_fields (h : s.Inv packets allocated jobs t active) {i : ℕ}
    {p : StagedPacket} (hp : active i = some p) (hused : (s.fragmentedPackets i).usedFrame = none)
    (status : ErrorT) :
    let s' := (s.fragmentingIpv6PacketFinished p.packet (i + 1) status).1
    s'.processStagedPacketsTaskPosted = s.processStagedPacketsTaskPosted ∧ s'.freeFrame ≠ none := by
  obtain ⟨f, hfree⟩ : ∃ f, (s.fragmentedPackets i).freeFrame = some f := by
    rcases h.frames_cases hp with ⟨f, hfree, -⟩ | ⟨f, -, hsome⟩
    · exact ⟨f, hfree⟩
    · rw [hused] at hsome
      cases hsome
  unfold LowpanForwarderMain.fragmentingIpv6PacketFinished
  simp only [Nat.add_sub_cancel, hfree]
  cases hmain : s.freeFrame with
  | none =>
    dsimp only
    obtain ⟨queue, posted, heq⟩ := stopForwardingNonfragmentedPacket_eq
      ({ s with freeFrame := some f }.setFragmentedPacket i
        { s.fragmentedPackets i with freeFrame := none, stagingQueueElem := none }) p.packet status
    rw [heq]
    exact ⟨rfl, Option.some_ne_none f⟩
  | some g =>
    dsimp only
    obtain ⟨queue, posted, heq⟩ := stopForwardingNonfragmentedPacket_eq
      (s.setFragmentedPacket i
        { s.fragmentedPackets i with freeFrame := none, stagingQueueElem := none }) p.packet status
    rw [heq]
    exact ⟨rfl, by rw [setFragmentedPacket_freeFrame, hmain]; exact Option.some_ne_none g⟩

theorem keeps_fragmentingIpv6PacketFinished (h : s.Inv packets allocated jobs t active)
    {packet token : ℕ} (hjob : jobs token = some ⟨packet, 0⟩) (status : ErrorT) :
    Keeps s (s.fragmentingIpv6PacketFinished packet token status) packets allocated jobs t active
      (s.Resumes (.fragmentingIpv6PacketFinished packet token status)) := by
  obtain ⟨i, p, allocated', jobs', rfl, hp, rfl, hinv, hcase, hstep⟩ :=
    h.fragmentingIpv6PacketFinished hjob status
  obtain ⟨hpmem, -⟩ := h.staged i p hp
  have hprogress : s.Resumes (.fragmentingIpv6PacketFinished p.packet (i + 1) status) →
      s.Progress t active →
      (s.fragmentingIpv6PacketFinished p.packet (i + 1) status).1.Progress
        (t.complete p.packet status) (Function.update active i none) := by
    intro hresumes hprogress
    have hused : (s.fragmentedPackets i).usedFrame = none := by
      rw [h.jobs_succ, hp, Option.map_some, Option.some.injEq, FragmenterJob.mk.injEq] at hjob
      simpa using hjob.2
    obtain ⟨hposted, hfree⟩ := h.fragmentingIpv6PacketFinished_fields hp hused status
    refine ⟨fun _ hnone => absurd hnone hfree, fun hpost q hq => ?_⟩
    rw [hposted] at hpost
    obtain ⟨hqmem, hne⟩ := h.mem_staged_complete hpmem hq
    have helem : q.elem ∈ s.stagedPacketQueue.stagedElems := by
      rw [h.stagedElems_eq]
      exact List.mem_map_of_mem hqmem
    rcases hresumes with htrue | hothers
    · exact absurd (hpost.symm.trans htrue) (by decide)
    rcases hothers q.elem helem with hself | ⟨j, hj, elem', helem', haddr⟩
    · rw [Nat.add_sub_cancel, h.elem i, hp, Option.map_some, Option.some.injEq] at hself
      exact absurd hself.symm hne
    · rw [h.elem j, Option.map_eq_some_iff] at helem'
      obtain ⟨r, hr, rfl⟩ := helem'
      rw [(h.holds_active hr).2, (h.holds (List.mem_append_left _ hqmem)).2] at haddr
      exact ⟨j, r, by rw [Function.update_of_ne (by simpa using hj)]; exact hr, Or.inl haddr⟩
  rcases hcase with ⟨hacts, rfl⟩ | ⟨f, hf, hacts, rfl⟩
  · refine ⟨packets, allocated', jobs', _, _, ?_, ?_, ?_, hinv, hprogress⟩
    · rw [hacts]; rfl
    · rw [hacts]; rfl
    · rw [hacts]
      change (jobs.step _).bind _ = _
      rw [hstep]
      rfl
  · refine ⟨packets, allocated.erase f, jobs', _, _, ?_, ?_, ?_, hinv, hprogress⟩
    · rw [hacts]; rfl
    · rw [hacts]
      change (LedgerEntry.record allocated (.closes f)).bind _ = _
      rw [LedgerEntry.record, if_pos hf]
      rfl
    · rw [hacts]
      change (jobs.step _).bind _ = _
      rw [hstep]
      rfl

theorem keeps_processCompletedPacketsTask (h : s.Inv packets allocated jobs t active)
    (hsig : s.signaling = false) :
    Keeps s s.processCompletedPacketsTask packets allocated jobs t active cond := by
  unfold LowpanForwarderMain.processCompletedPacketsTask
  have hfirst := h.completed_first
  dsimp only
  cases hcompleted : t.completed with
  | nil =>
    rw [hcompleted] at hfirst
    rw [hfirst]
    have hinv : ({ s with processCompletedPacketsTaskPosted := false } : LowpanForwarderMain).Inv
        packets allocated jobs t active :=
      { h with completedPosted := fun hne => absurd hcompleted hne }
    exact hinv.keeps (fun act hact => by cases hact)
      fun _ hprogress => hprogress.congr rfl rfl rfl rfl fun p hp => hp
  | cons p rest =>
    rw [hcompleted] at hfirst
    rw [hfirst]
    obtain ⟨hmem, hinv⟩ := h.signal hcompleted hsig
    have hpacket : (s.stagedPacketQueue.elems p.elem).packet = p.packet :=
      (h.holds (List.mem_append_right _ (by rw [hcompleted]; exact List.mem_cons_self))).1
    refine ⟨packets.erase p.packet, allocated, jobs, t, active, ?_, rfl, rfl, hinv,
      fun _ hprogress => hprogress.congr rfl rfl rfl rfl fun p hp => hp⟩
    change (LedgerEntry.record packets
      (.closes (s.stagedPacketQueue.elems p.elem).packet)).bind _ = _
    rw [hpacket, LedgerEntry.record, if_pos hmem]
    rfl

theorem keeps_processCompletedPacketsTaskReturn (h : s.Inv packets allocated jobs t active)
    (hsig : s.signaling = true) :
    Keeps s (s.processCompletedPacketsTaskReturn, []) packets allocated jobs t active cond := by
  refine (h.processCompletedPacketsTaskReturn hsig).keeps (fun act hact => by cases hact)
    fun _ hprogress => hprogress.congr rfl rfl rfl rfl fun p hp => ?_
  unfold StagingQueueLists.removeFirst at hp
  split at hp <;> exact hp

end Inv

/-! ### Frames -/

/-- The task that sends the first frame: it has nothing to do, the lower layer refuses the frame,
which is queued again or given up, or it takes the frame. -/
theorem processEnqueuedFramesTask_cases (s : LowpanForwarderMain) (subStatus : ErrorT) :
    let s₀ := { s with processEnqueuedFramesTaskPosted := false }
    let idx := s.frameQueue.frameQueueArray s.frameQueue.frameQueueFirstIdx.toNat
    let entry := s.fragmentedPackets idx.toNat
    let s₁ := { s₀ with
      frameQueue := s.frameQueue.removeFirstFwdPacketIndxFromFrameQueue, txTimerRunning := true }
    (s.txBit = true ∨ s.frameQueue.frameQueueCount = 0) ∧
        s.processEnqueuedFramesTask subStatus = (s₀, []) ∨
      ¬ (s.txBit = true ∨ s.frameQueue.frameQueueCount = 0) ∧
        (subStatus ≠ SUCCESS ∧ entry.numRetransmissionsRemaining > 0 ∧
            s.processEnqueuedFramesTask subStatus =
              ({ s₁.setFragmentedPacket idx.toNat { entry with
                    numRetransmissionsRemaining := entry.numRetransmissionsRemaining - 1 } with
                  frameQueue := (s₁.frameQueue.addFwdPacketIdxAsLastInFrameQueue idx).2 }, []) ∨
          subStatus ≠ SUCCESS ∧ ¬ entry.numRetransmissionsRemaining > 0 ∧
            s.processEnqueuedFramesTask subStatus =
              (s₁, entry.usedFrame.toList.map (.frameSendingFinished · subStatus)) ∨
          subStatus = SUCCESS ∧ s.processEnqueuedFramesTask subStatus =
            ({ s₀ with txBit := true }, [.subFrameStarted entry.usedFrame])) := by
  intro s₀ idx entry s₁
  by_cases hidle : s.txBit = true ∨ s.frameQueue.frameQueueCount = 0
  · exact Or.inl ⟨hidle, if_pos hidle⟩
  refine Or.inr ⟨hidle, ?_⟩
  by_cases hstatus : subStatus = SUCCESS
  · exact Or.inr (Or.inr ⟨hstatus, (if_neg hidle).trans (if_neg (not_not.mpr hstatus))⟩)
  by_cases hremaining : entry.numRetransmissionsRemaining > 0
  · exact Or.inl ⟨hstatus, hremaining,
      (if_neg hidle).trans ((if_pos hstatus).trans (if_pos hremaining))⟩
  · exact Or.inr (Or.inl ⟨hstatus, hremaining,
      (if_neg hidle).trans ((if_pos hstatus).trans (if_neg hremaining))⟩)

/-- The end of a transmission: the frame is finished, or it is queued again. -/
theorem frameSendingFinished_cases (s : LowpanForwarderMain) (frame : ℕ) (status : ErrorT)
    (linkIdx : UInt8) :
    ∃ seqNo reports,
      (∀ act ∈ reports, ∃ idx ack, act = LowpanForwarderAct.reportUnicast idx ack) ∧
      let idx := s.frameQueue.frameQueueArray s.frameQueue.frameQueueFirstIdx.toNat
      let entry := s.fragmentedPackets idx.toNat
      let s₁ := { s with
        txBit := false
        bcastSeqNoGenerator := seqNo
        frameQueue := s.frameQueue.removeFirstFwdPacketIndxFromFrameQueue
        txTimerRunning := true }
      (s.frameSendingFinished frame status linkIdx =
          (s₁, .subFrameFinished frame :: reports ++ [.frameSendingFinished frame status]) ∨
        status ≠ SUCCESS ∧ entry.numRetransmissionsRemaining ≠ 0 ∧
          s.frameSendingFinished frame status linkIdx =
            ({ s₁.setFragmentedPacket idx.toNat { entry with
                  numRetransmissionsRemaining := entry.numRetransmissionsRemaining - 1 } with
                frameQueue := (s₁.frameQueue.addFwdPacketIdxAsLastInFrameQueue idx).2 },
              .subFrameFinished frame :: reports)) := by
  have hreports : ∀ act ∈ updateLinkTableAfterTransmittingUnicastFrameForForwardedPacket status
      linkIdx, ∃ idx ack, act = LowpanForwarderAct.reportUnicast idx ack := by
    intro act hact
    unfold updateLinkTableAfterTransmittingUnicastFrameForForwardedPacket at hact
    split_ifs at hact
    · cases hact
    · exact ⟨_, _, List.mem_singleton.mp hact⟩
    · exact ⟨_, _, List.mem_singleton.mp hact⟩
    · cases hact
  unfold LowpanForwarderMain.frameSendingFinished
  dsimp only
  generalize ((s.fragmentedPackets (s.frameQueue.frameQueueArray
    s.frameQueue.frameQueueFirstIdx.toNat).toNat).flags &&& FRAGMENTED_PACKET_FLAG_BROADCAST != 0) =
      isBroadcast
  cases isBroadcast with
  | true =>
    refine ⟨s.bcastSeqNoGenerator + 1, [], fun act hact => (by cases hact), Or.inl ?_⟩
    by_cases hstatus : status = SUCCESS
    · rw [if_pos hstatus, hstatus]
      rfl
    · rw [if_neg hstatus, if_pos (Or.inr rfl)]
      rfl
  | false =>
    refine ⟨s.bcastSeqNoGenerator, _, hreports, ?_⟩
    by_cases hstatus : status = SUCCESS
    · rw [if_pos hstatus, hstatus]
      exact Or.inl rfl
    rw [if_neg hstatus]
    by_cases hlast : (s.fragmentedPackets (s.frameQueue.frameQueueArray
        s.frameQueue.frameQueueFirstIdx.toNat).toNat).numRetransmissionsRemaining = 0
    · rw [if_pos (Or.inl hlast)]
      exact Or.inl rfl
    · rw [if_neg (by rintro (h | h); exacts [hlast h, Bool.false_ne_true h])]
      exact Or.inr ⟨hstatus, hlast, rfl⟩

namespace Inv

theorem keeps_startSendingFrame (h : s.Inv packets allocated jobs t active) (frame : ℕ) :
    Keeps s (s.startSendingFrame frame).2 packets allocated jobs t active cond := by
  refine (h.startSendingFrame frame).keeps ?_ fun _ hprogress => ?_
  · intro act hact
    unfold LowpanForwarderMain.startSendingFrame at hact
    split at hact
    · cases hact
    · obtain rfl := List.mem_singleton.mp hact
      exact ⟨rfl, rfl, rfl⟩
  · refine hprogress.congr ?_ ?_ ?_ ?_ fun p hp => hp
    all_goals
      unfold LowpanForwarderMain.startSendingFrame
      split
      · rfl
      · dsimp only
        split_ifs <;> rfl

theorem keeps_stopSendingFrame (h : s.Inv packets allocated jobs t active) (frame : ℕ)
    (subStatus : ErrorT) :
    Keeps s (s.stopSendingFrame frame subStatus).2 packets allocated jobs t active cond := by
  refine (h.stopSendingFrame frame subStatus).keeps ?_ fun _ hprogress => ?_
  · intro act hact
    unfold LowpanForwarderMain.stopSendingFrame at hact
    dsimp only at hact
    split_ifs at hact <;> simp only [List.nil_append, List.mem_append, List.mem_singleton,
      List.not_mem_nil] at hact
    all_goals
      rcases hact with rfl | rfl <;> exact ⟨rfl, rfl, rfl⟩
  · refine hprogress.congr ?_ ?_ ?_ ?_ fun p hp => hp
    all_goals
      unfold LowpanForwarderMain.stopSendingFrame
      dsimp only
      split_ifs <;> rfl

theorem keeps_processEnqueuedFramesTask (h : s.Inv packets allocated jobs t active)
    (subStatus : ErrorT) :
    Keeps s (s.processEnqueuedFramesTask subStatus) packets allocated jobs t active cond := by
  refine (h.processEnqueuedFramesTask subStatus).keeps ?_ fun _ hprogress => ?_
  · intro act hact
    rcases s.processEnqueuedFramesTask_cases subStatus with ⟨-, heq⟩ | ⟨-, ⟨-, -, heq⟩ |
      ⟨-, -, heq⟩ | ⟨-, heq⟩⟩
    all_goals rw [heq] at hact
    · cases hact
    · cases hact
    · obtain ⟨f, -, rfl⟩ := List.mem_map.mp hact
      exact ⟨rfl, rfl, rfl⟩
    · obtain rfl := List.mem_singleton.mp hact
      exact ⟨rfl, rfl, rfl⟩
  · refine hprogress.congr ?_ ?_ ?_ ?_ fun p hp => hp
    all_goals
      unfold LowpanForwarderMain.processEnqueuedFramesTask
      dsimp only
      split_ifs <;> rfl

theorem keeps_frameSendingFinished (h : s.Inv packets allocated jobs t active) (frame : ℕ)
    (status : ErrorT) (linkIdx : UInt8) :
    Keeps s (s.frameSendingFinished frame status linkIdx) packets allocated jobs t active
      cond := by
  refine (h.frameSendingFinished frame status linkIdx).keeps ?_ fun _ hprogress => ?_
  · intro act hact
    obtain ⟨seqNo, reports, hreports, hcase⟩ := s.frameSendingFinished_cases frame status linkIdx
    have hreport : ∀ act ∈ reports, act.packetEntry = .other ∧ act.frameEntry = .other ∧
        act.fragmenterAct = none := by
      intro act hact
      obtain ⟨idx, ack, rfl⟩ := hreports act hact
      exact ⟨rfl, rfl, rfl⟩
    rcases hcase with heq | ⟨-, -, heq⟩ <;> rw [heq] at hact
    · rw [List.cons_append, List.mem_cons, List.mem_append, List.mem_singleton] at hact
      rcases hact with rfl | hact | rfl
      · exact ⟨rfl, rfl, rfl⟩
      · exact hreport act hact
      · exact ⟨rfl, rfl, rfl⟩
    · rcases List.mem_cons.mp hact with rfl | hact
      · exact ⟨rfl, rfl, rfl⟩
      · exact hreport act hact
  · refine hprogress.congr ?_ ?_ ?_ ?_ fun p hp => hp
    all_goals
      unfold LowpanForwarderMain.frameSendingFinished
      dsimp only
      split_ifs <;> rfl

end Inv

end LowpanForwarderMain

/-! ## Runs -/

namespace LowpanForwarderWorld

variable {w : LowpanForwarderWorld} {event : LowpanForwarderEvent}
  {acts : List LowpanForwarderAct} {t : StagingQueueLists} {active : ℕ → Option StagedPacket}

/-- The invariant of the forwarder and its peers, after a history. -/
structure Inv (w : LowpanForwarderWorld) (acts : List LowpanForwarderAct) (t : StagingQueueLists)
    (active : ℕ → Option StagedPacket) : Prop where
  forwarder : w.forwarder.Inv w.peers.packets w.peers.allocated w.peers.jobs t active
  packets : ledger LowpanForwarderAct.packetEntry [] acts = some w.peers.packets
  allocated : ledger LowpanForwarderAct.frameEntry [] acts = some w.peers.allocated

/-- Every step that may be taken keeps the invariant of the forwarder. -/
theorem forwarder_keeps
    (h : w.forwarder.Inv w.peers.packets w.peers.allocated w.peers.jobs t active)
    (hallowed : w.Allowed event) :
    LowpanForwarderMain.Keeps w.forwarder (w.forwarder.step event) w.peers.packets
      w.peers.allocated w.peers.jobs t active (w.forwarder.Resumes event) := by
  cases event with
  | start frame rand => exact h.keeps_start hallowed rand
  | startForwardingIpv6Packet packet llAddr =>
    exact h.keeps_startForwardingIpv6Packet hallowed llAddr
  | stopForwardingIpv6Packet packet fragStatus =>
    exact h.keeps_stopForwardingIpv6Packet packet fragStatus
  | processStagedPacketsTask frame fragToken =>
    exact h.keeps_processStagedPacketsTask hallowed.2.2.1 hallowed.2.2.2
  | frameForFragmentedPacketRequested token answers =>
    exact h.keeps_frameForFragmentedPacketRequested hallowed answers
  | frameForFragmentedPacketReleased token frame =>
    obtain ⟨⟨job, hjob, hframe⟩, -⟩ := hallowed
    exact h.keeps_frameForFragmentedPacketReleased hjob hframe
  | fragmentingIpv6PacketFinished packet token status =>
    exact h.keeps_fragmentingIpv6PacketFinished hallowed status
  | processCompletedPacketsTask => exact h.keeps_processCompletedPacketsTask hallowed.2
  | processCompletedPacketsTaskReturn => exact h.keeps_processCompletedPacketsTaskReturn hallowed
  | startSendingFrame frame => exact h.keeps_startSendingFrame frame
  | stopSendingFrame frame subStatus => exact h.keeps_stopSendingFrame frame subStatus
  | txTimerFired =>
    have hinv : w.forwarder.txTimerFired.Inv w.peers.packets w.peers.allocated w.peers.jobs t
        active := h.congr rfl rfl (fun _ => rfl) (fun _ => rfl) (fun _ => rfl) rfl rfl rfl rfl
    exact hinv.keeps (fun act hact => by cases hact) fun _ hprogress =>
      hprogress.congr rfl rfl rfl rfl fun p hp => hp
  | processEnqueuedFramesTask subStatus => exact h.keeps_processEnqueuedFramesTask subStatus
  | frameSendingFinished frame status linkIdx =>
    exact h.keeps_frameSendingFinished frame status linkIdx

theorem Inv.step (h : w.Inv acts t active) (hallowed : w.Allowed event) :
    ∃ t' active', (w.step event).1.Inv (acts ++ (w.step event).2) t' active' ∧
      (w.forwarder.Resumes event → w.forwarder.Progress t active →
        (w.step event).1.forwarder.Progress t' active') := by
  obtain ⟨packets', allocated', jobs', t', active', hpackets, hallocated, hjobs, hinv, hprogress⟩ :=
    forwarder_keeps h.forwarder hallowed
  refine ⟨t', active', ⟨?_, ?_, ?_⟩, hprogress⟩
  · simp only [LowpanForwarderWorld.step, LowpanForwarderPeers.observe, hpackets, hallocated, hjobs,
      Option.getD_some]
    exact hinv
  · simp only [LowpanForwarderWorld.step, LowpanForwarderPeers.observe, ledger_append, h.packets,
      Option.bind_some, hpackets, Option.getD_some]
  · simp only [LowpanForwarderWorld.step, LowpanForwarderPeers.observe, ledger_append, h.allocated,
      Option.bind_some, hallocated, Option.getD_some]

/-- The invariant, for some lists. -/
def Sound (w : LowpanForwarderWorld) (acts : List LowpanForwarderAct) : Prop :=
  ∃ t active, w.Inv acts t active

/-- The invariant and what the staged packets wait for, for some lists. -/
def Live (w : LowpanForwarderWorld) (acts : List LowpanForwarderAct) : Prop :=
  ∃ t active, w.Inv acts t active ∧ w.forwarder.Progress t active

theorem Sound.step (h : w.Sound acts) (hallowed : w.Allowed event) :
    (w.step event).1.Sound (acts ++ (w.step event).2) := by
  obtain ⟨t, active, hinv⟩ := h
  obtain ⟨t', active', hinv', -⟩ := hinv.step hallowed
  exact ⟨t', active', hinv'⟩

theorem Live.step (h : w.Live acts) (hallowed : w.Allowed event)
    (hresumes : w.forwarder.Resumes event) : (w.step event).1.Live (acts ++ (w.step event).2) := by
  obtain ⟨t, active, hinv, hprogress⟩ := h
  obtain ⟨t', active', hinv', hprogress'⟩ := hinv.step hallowed
  exact ⟨t', active', hinv', hprogress' hresumes hprogress⟩

theorem inv_initial (maxNumStagedPackets maxNumFragmentedPackets : UInt8)
    (elems : ℕ → LowpanIpv6PacketReadyForForwarding) (hdrs : LowpanUnpackedFrameHeaders)
    (frames : ℕ → Ieee154DframeInfo) :
    (initial maxNumStagedPackets maxNumFragmentedPackets elems hdrs frames).Inv [] ⟨[], [], []⟩
      fun _ => none where
  forwarder :=
    { represents := ⟨0, LowpanIpv6PacketReadyForForwardingQueue.init_represents elems 0⟩
      completedPosted := fun hne => absurd rfl hne
      signaling := fun hsig => absurd hsig Bool.false_ne_true
      packets_perm := List.Perm.refl _
      packets_nodup := List.nodup_nil
      elem := fun _ => rfl
      staged := fun i p hp => by cases hp
      addr := fun i j p q hp => by cases hp
      jobs_zero := rfl
      jobs_succ := fun _ => rfl
      oneFrame := fun _ => rfl
      allocated_perm := by
        have hframes : ∀ i, ((LowpanForwarderMain.initial maxNumStagedPackets
            maxNumFragmentedPackets elems hdrs frames).fragmentedPackets i).frames = [] :=
          fun _ => rfl
        change [].Perm (LowpanForwarderMain.initial maxNumStagedPackets maxNumFragmentedPackets
          elems hdrs frames).heldFrames
        rw [LowpanForwarderMain.heldFrames]
        simp only [hframes]
        simp [LowpanForwarderMain.initial]
      allocated_nodup := List.nodup_nil
      off := fun _ => ⟨rfl, rfl, rfl⟩ }
  packets := rfl
  allocated := rfl

theorem progress_initial (maxNumStagedPackets maxNumFragmentedPackets : UInt8)
    (elems : ℕ → LowpanIpv6PacketReadyForForwarding) (hdrs : LowpanUnpackedFrameHeaders)
    (frames : ℕ → Ieee154DframeInfo) :
    (initial maxNumStagedPackets maxNumFragmentedPackets elems hdrs frames).forwarder.Progress
      ⟨[], [], []⟩ fun _ => none where
  busy hon := by cases hon
  waits _ p hp := by cases hp

variable {maxNumStagedPackets maxNumFragmentedPackets : UInt8}
  {elems : ℕ → LowpanIpv6PacketReadyForForwarding} {hdrs : LowpanUnpackedFrameHeaders}
  {frames : ℕ → Ieee154DframeInfo} {events : List LowpanForwarderEvent}

/-- The invariant holds after every run. -/
theorem run_inv
    (hallowed : RunMeets step Allowed
      (initial maxNumStagedPackets maxNumFragmentedPackets elems hdrs frames) events) :
    let r := run step (initial maxNumStagedPackets maxNumFragmentedPackets elems hdrs frames) events
    r.1.Sound r.2 := by
  have hinv := run_invariant (fun w acts event hallowed hinv => Sound.step hinv hallowed)
    ⟨_, _, inv_initial _ _ _ _ _⟩ hallowed
  rwa [List.nil_append] at hinv

/-- After a run whose steps all resume, every staged packet waits for something. -/
theorem run_progress
    (hmeets : RunMeets step (fun w event => w.Allowed event ∧ w.forwarder.Resumes event)
      (initial maxNumStagedPackets maxNumFragmentedPackets elems hdrs frames) events) :
    let r := run step (initial maxNumStagedPackets maxNumFragmentedPackets elems hdrs frames) events
    r.1.Live r.2 := by
  have hinv := run_invariant (fun w acts event hmeets hinv => Live.step hinv hmeets.1 hmeets.2)
    ⟨_, _, inv_initial _ _ _ _ _, progress_initial _ _ _ _ _⟩ hmeets
  rwa [List.nil_append] at hinv

/-- A world whose memory is zeroed, with two elements for packets, two tokens and small frames. -/
def zeroed : LowpanForwarderWorld :=
  initial 2 2 (fun _ => ⟨none, 0, 0, .none⟩)
    ⟨.empty, 0, ⟨0, 0, 0⟩, ⟨0, .none, .none⟩, ⟨0⟩⟩ fun _ => ⟨List.replicate 20 0, 20, 0, 0, 0⟩

/-- A staged packet is blocked by a job of the fragmenter: one that has its address, or one that
leaves no frame or no token. -/
def Blocked (w : LowpanForwarderWorld) (elem : ℕ) : Prop :=
  ∃ i elem', w.peers.jobs (i + 1) ≠ none ∧
    (w.forwarder.fragmentedPackets i).stagingQueueElem = some elem' ∧
      (w.forwarder.addrOf elem' = w.forwarder.addrOf elem ∨ w.forwarder.freeFrame = none ∨
        ∀ j < w.forwarder.maxNumFragmentedPackets.toNat,
          (w.forwarder.fragmentedPackets j).stagingQueueElem ≠ none)

theorem Inv.blocked (h : w.Inv acts t active) (hprogress : w.forwarder.Progress t active)
    (hposted : w.forwarder.processStagedPacketsTaskPosted = false) {elem : ℕ}
    (helem : elem ∈ w.forwarder.stagedPacketQueue.stagedElems) : w.Blocked elem := by
  rw [h.forwarder.stagedElems_eq] at helem
  obtain ⟨p, hp, rfl⟩ := List.mem_map.mp helem
  obtain ⟨i, q, hq, hcase⟩ := hprogress.waits hposted p hp
  refine ⟨i, q.elem, ?_, (h.forwarder.elem i).trans (congrArg _ hq), ?_⟩
  · rw [h.forwarder.jobs_succ, hq]
    exact Option.some_ne_none _
  · rcases hcase with haddr | hfree | hfull
    · rw [(h.forwarder.holds_active hq).2,
        (h.forwarder.holds (List.mem_append_left t.completed hp)).2]
      exact Or.inl haddr
    · exact Or.inr (Or.inl hfree)
    · refine Or.inr (Or.inr fun j hj hnone => hfull j hj ?_)
      rw [h.forwarder.elem j, Option.map_eq_none_iff] at hnone
      exact hnone

end LowpanForwarderWorld

section Results

variable (maxNumStagedPackets maxNumFragmentedPackets : UInt8)
  (elems : ℕ → LowpanIpv6PacketReadyForForwarding) (hdrs : LowpanUnpackedFrameHeaders)
  (frames : ℕ → Ieee154DframeInfo) (events : List LowpanForwarderEvent)

/-- The packets that are being fragmented are staged, and have different addresses. -/
theorem lowpanForwarder_fragmentedAddrs_ne
    (hallowed : RunMeets LowpanForwarderWorld.step LowpanForwarderWorld.Allowed
      (.initial maxNumStagedPackets maxNumFragmentedPackets elems hdrs frames) events) :
    let w := (run LowpanForwarderWorld.step
      (.initial maxNumStagedPackets maxNumFragmentedPackets elems hdrs frames) events).1
    (∀ token job, w.peers.jobs token = some job →
      ∃ elem ∈ w.forwarder.stagedPacketQueue.stagedElems,
        (w.forwarder.fragmentedPackets (token - 1)).stagingQueueElem = some elem ∧
          w.forwarder.packetOf elem = job.packet) ∧
    ∀ i j elem elem', i ≠ j →
      (w.forwarder.fragmentedPackets i).stagingQueueElem = some elem →
      (w.forwarder.fragmentedPackets j).stagingQueueElem = some elem' →
      w.forwarder.addrOf elem ≠ w.forwarder.addrOf elem' := by
  obtain ⟨t, active, hinv⟩ := LowpanForwarderWorld.run_inv hallowed
  refine ⟨fun token job hjob => ?_, fun i j elem elem' hij hi hj heq => ?_⟩
  · obtain ⟨i, p, rfl, hp, rfl⟩ := hinv.forwarder.of_job hjob
    refine ⟨p.elem, ?_, (hinv.forwarder.elem i).trans (congrArg _ hp),
      (hinv.forwarder.holds_active hp).1⟩
    rw [hinv.forwarder.stagedElems_eq]
    exact List.mem_map_of_mem (hinv.forwarder.staged i p hp).1
  · rw [hinv.forwarder.elem, Option.map_eq_some_iff] at hi hj
    obtain ⟨p, hp, rfl⟩ := hi
    obtain ⟨q, hq, rfl⟩ := hj
    rw [(hinv.forwarder.holds_active hp).2, (hinv.forwarder.holds_active hq).2] at heq
    exact hij (hinv.forwarder.addr i j p q hp hq heq)

/-- Two packets to one neighbour and one to another: the second waits, the third is started. -/
theorem lowpanForwarder_fragmentedAddrs_ne_three :
    let events : List LowpanForwarderEvent :=
      [.start (some 0) 0, .startForwardingIpv6Packet 10 (.shrt #v[1, 0]),
        .startForwardingIpv6Packet 11 (.shrt #v[2, 0]), .processStagedPacketsTask none 1,
        .processStagedPacketsTask (some 1) 2]
    let w := (run LowpanForwarderWorld.step LowpanForwarderWorld.zeroed events).1
    ∀ i j elem elem', i ≠ j →
      (w.forwarder.fragmentedPackets i).stagingQueueElem = some elem →
      (w.forwarder.fragmentedPackets j).stagingQueueElem = some elem' →
      w.forwarder.addrOf elem ≠ w.forwarder.addrOf elem' := by
  intro events
  have hallowed : RunMeets LowpanForwarderWorld.step LowpanForwarderWorld.Allowed
      LowpanForwarderWorld.zeroed events := by
    refine ⟨fun f _ hf => (by cases hf), fun hp => (by cases hp), fun hp => ?_,
      ⟨rfl, rfl, fun f hf => (by cases hf), fun _ => ⟨by decide, rfl⟩⟩,
      ⟨rfl, rfl, fun f hf => ?_, fun _ => ⟨by decide, rfl⟩⟩, trivial⟩
    · change 11 ∈ [10] at hp
      revert hp
      decide
    · obtain rfl := Option.some.inj hf
      change 1 ∉ [0]
      decide
  exact (lowpanForwarder_fragmentedAddrs_ne 2 2 _ _ _ events hallowed).2

/-- When the task is not posted, a staged packet that is not being fragmented is blocked, if every
step of the run resumed. -/
theorem lowpanForwarder_blocked
    (hmeets : RunMeets LowpanForwarderWorld.step
      (fun w event => w.Allowed event ∧ w.forwarder.Resumes event)
      (.initial maxNumStagedPackets maxNumFragmentedPackets elems hdrs frames) events) :
    let w := (run LowpanForwarderWorld.step
      (.initial maxNumStagedPackets maxNumFragmentedPackets elems hdrs frames) events).1
    w.forwarder.processStagedPacketsTaskPosted = false →
      ∀ elem ∈ w.forwarder.stagedPacketQueue.stagedElems,
        (∀ i, (w.forwarder.fragmentedPackets i).stagingQueueElem ≠ some elem) →
          w.Blocked elem := by
  obtain ⟨t, active, hinv, hprogress⟩ := LowpanForwarderWorld.run_progress hmeets
  exact fun hposted elem helem _ => hinv.blocked hprogress hposted helem

/-- Two packets to one neighbour, of which the first is being fragmented. -/
theorem lowpanForwarder_blocked_second :
    let events : List LowpanForwarderEvent :=
      [.start (some 0) 0, .startForwardingIpv6Packet 10 (.shrt #v[1, 0]),
        .startForwardingIpv6Packet 11 (.shrt #v[1, 0]), .processStagedPacketsTask none 1,
        .processStagedPacketsTask none 0]
    let w := (run LowpanForwarderWorld.step LowpanForwarderWorld.zeroed events).1
    w.Blocked 0 := by
  intro events
  have hmeets : RunMeets LowpanForwarderWorld.step
      (fun w event => w.Allowed event ∧ w.forwarder.Resumes event)
      LowpanForwarderWorld.zeroed events := by
    refine ⟨⟨fun f _ hf => (by cases hf), trivial⟩, ⟨fun hp => (by cases hp), trivial⟩,
      ⟨fun hp => ?_, trivial⟩,
      ⟨⟨rfl, rfl, fun f hf => (by cases hf), fun _ => ⟨by decide, rfl⟩⟩,
        fun _ _ htoken => (by cases htoken)⟩,
      ⟨⟨rfl, rfl, fun f hf => (by cases hf), fun htoken => absurd rfl htoken⟩,
        fun helem => absurd rfl helem⟩, trivial⟩
    change 11 ∈ [10] at hp
    revert hp
    decide
  refine lowpanForwarder_blocked 2 2 _ _ _ events hmeets rfl 0 ?_ fun i hi => ?_
  · change 0 ∈ [1, 0]
    decide
  · cases i with
    | zero =>
      have hone : some 1 = some 0 := hi
      cases hone
    | succ i =>
      change (if i + 1 < 2 then (⟨none, none, none, 0, 0⟩ : LowpanIpv6PacketBeingForwarded)
        else ⟨none, none, none, 0, 0⟩).stagingQueueElem = some 0 at hi
      rw [ite_self] at hi
      cases hi

/-- The first packet is finished, and nobody takes up the second one. -/
theorem lowpanForwarder_stranded :
    let events : List LowpanForwarderEvent :=
      [.start (some 0) 0, .startForwardingIpv6Packet 10 (.shrt #v[1, 0]),
        .startForwardingIpv6Packet 11 (.shrt #v[1, 0]), .processStagedPacketsTask none 1,
        .processStagedPacketsTask none 0, .fragmentingIpv6PacketFinished 10 1 SUCCESS]
    let w := (run LowpanForwarderWorld.step LowpanForwarderWorld.zeroed events).1
    RunMeets LowpanForwarderWorld.step LowpanForwarderWorld.Allowed LowpanForwarderWorld.zeroed
        events ∧
      w.forwarder.processStagedPacketsTaskPosted = false ∧
      ∃ elem ∈ w.forwarder.stagedPacketQueue.stagedElems,
        (∀ i, (w.forwarder.fragmentedPackets i).stagingQueueElem ≠ some elem) ∧
          ¬ w.Blocked elem := by
  intro events w
  have hentry : ∀ i, (w.forwarder.fragmentedPackets i).stagingQueueElem = none := by
    intro i
    cases i with
    | zero => rfl
    | succ i =>
      change (if i + 1 < 2 then (⟨none, none, none, 0, 0⟩ : LowpanIpv6PacketBeingForwarded)
        else ⟨none, none, none, 0, 0⟩).stagingQueueElem = none
      rw [ite_self]
  refine ⟨⟨fun f _ hf => (by cases hf), fun hp => (by cases hp), fun hp => ?_,
    ⟨rfl, rfl, fun f hf => (by cases hf), fun _ => ⟨by decide, rfl⟩⟩,
    ⟨rfl, rfl, fun f hf => (by cases hf), fun htoken => absurd rfl htoken⟩, rfl, trivial⟩, rfl, 0,
    ?_, fun i hi => ?_, ?_⟩
  · change 11 ∈ [10] at hp
    revert hp
    decide
  · change 0 ∈ [0]
    decide
  · rw [hentry i] at hi
    cases hi
  · rintro ⟨i, elem', -, helem, -⟩
    rw [hentry i] at helem
    cases helem

end Results

end Whip6
