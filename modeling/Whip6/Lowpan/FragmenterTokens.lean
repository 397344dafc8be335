import Whip6.Lib.Runs
import Whip6.Lib.Tiling
import Whip6.Lowpan.FragmentSlices

/-!
# Several packets at a time

The fragmenter and the header objects of its clients, under calls that come in any order: packets
are started and finished, headers are provided and overwritten, and the next fragment is requested
for one token or another, possibly with one header object for all of them.  From when a packet is
started until it is finished, the slices in its frames tile it.
-/

namespace Whip6

open Lib

/-! ## Calls -/

/-- The fragmenter and the header objects that its clients provide. -/
structure LowpanFragmenterClients where
  state : LowpanFragGlobalState
  hdrs : ℕ → LowpanUnpackedFrameHeaders

inductive LowpanTokenCall
  | setFlags (flags : UInt8)
  | start (packet : ℕ)
  | provideHeaders (token hdrs : ℕ)
  /-- A client writes its header object. -/
  | writeHeaders (hdrs : ℕ) (value : LowpanUnpackedFrameHeaders)
  | request (token : ℕ) (frame : Ieee154DframeInfo)
  | finish (token : Option ℕ)

inductive LowpanTokenResult
  | started (token : Option ℕ) (packet : ℕ)
  /-- A frame with a fragment: the progress of the token before and behind it. -/
  | fragment (token : ℕ) (slice : Span) (frame : Ieee154DframeInfo)
  | refused (token : ℕ) (error : Whip6Error)
  | finished (token packet : Option ℕ)

namespace LowpanFragmenterClients

/-- One call, with the contents of the packets. -/
def step (content : ℕ → Ipv6Packet) (s : LowpanFragmenterClients) :
    LowpanTokenCall → LowpanFragmenterClients × List LowpanTokenResult
  | .setFlags flags => ({ s with state := { s.state with fragFlags := flags } }, [])
  | .start packet =>
    let r := lowpanFragmenterStartFragmentingIpv6Packet s.state packet (content packet)
    ({ s with state := r.2 }, [.started r.1 packet])
  | .provideHeaders token hdrs =>
    ({ s with
        state :=
          lowpanFragmenterProvideAdditional6LoWPANHeadersForIpv6Packet s.state token hdrs }, [])
  | .writeHeaders hdrs value => ({ s with hdrs := Function.update s.hdrs hdrs value }, [])
  | .request token frame =>
    let before := s.state.packets token
    match before.packet with
    -- Without a packet the code follows a null pointer.
    | none => (s, [])
    | some packet =>
      let r := lowpanFragmenterRequestNextFragmentOfIpv6Packet s.state.fragFlags before
        (content packet) (before.lowpanHdrs.map s.hdrs) frame
      ({ state := s.state.setPacket token r.2.1
         hdrs := match before.lowpanHdrs, r.2.2.1 with
           | some hdrs, some value => Function.update s.hdrs hdrs value
           | _, _ => s.hdrs },
        [if r.1 = .noError then
            .fragment token ⟨before.fragOffset.toNat, r.2.1.fragOffset.toNat⟩ r.2.2.2
          else .refused token r.1])
  | .finish token =>
    let r := lowpanFragmenterFinishFragmentingIpv6Packet s.state token
    ({ s with state := r.2 }, [.finished token r.1])

/-- Headers and fragments are for tokens with a packet, and frames are valid. -/
def Allowed (s : LowpanFragmenterClients) : LowpanTokenCall → Prop
  | .provideHeaders token _ => (s.state.packets token).packet.isSome
  | .request token frame => (s.state.packets token).packet.isSome ∧ frame.Valid
  | _ => True

/-- The fragmenter with its pool of packet states, before the first call. -/
def initial (packets : ℕ → LowpanFragPacketState) (pktsArrLen : UInt8)
    (hdrs : ℕ → LowpanUnpackedFrameHeaders) : LowpanFragmenterClients :=
  ⟨lowpanFragmenterInit packets pktsArrLen, hdrs⟩

/-- The slices in the frames of a token. -/
def slices (token : ℕ) (results : List LowpanTokenResult) : List Span :=
  results.filterMap fun
    | .fragment t slice _ => if t = token then some slice else none
    | _ => none

/-! ## The other packet states -/

section Others

variable {state : LowpanFragGlobalState} {current free : List ℕ} {k : ℕ}

/-- What a packet state says of its packet, but for the headers provided. -/
def progress (token : LowpanFragPacketState) : Option ℕ × UInt16 × UInt16 :=
  (token.packet, token.fragTag, token.fragOffset)

theorem progress_setPacket (i k : ℕ) {packet : LowpanFragPacketState}
    (hpacket : progress packet = progress (state.packets i)) :
    progress ((state.setPacket i packet).packets k) = progress (state.packets k) := by
  by_cases hk : k = i
  · subst hk
    rw [LowpanFragGlobalState.setPacket]
    dsimp only
    rw [Function.update_self, hpacket]
  · rw [LowpanFragGlobalState.packets_setPacket_of_ne hk]

theorem progress_setNext (i k : ℕ) (v : Option ℕ) :
    progress ((state.setNext i v).packets k) = progress (state.packets k) :=
  progress_setPacket i k rfl

/-- Finishing one token changes the links of the others at most. -/
theorem lists_finish (h : state.Represents current free) (token : Option ℕ) :
    let state' := (lowpanFragmenterFinishFragmentingIpv6Packet state token).2
    ∃ current' free', state'.Represents current' free' ∧ ∀ k ∈ current, token ≠ some k →
      k ∈ current' ∧ progress (state'.packets k) = progress (state.packets k) := by
  have hlen := h.partition.length_eq
  rw [List.length_append, List.length_range] at hlen
  by_cases htoken : ∃ i ∈ current, token = some i
  · obtain ⟨i, hi, rfl⟩ := htoken
    obtain ⟨l₁, l₂, rfl⟩ := List.append_of_mem hi
    obtain ⟨state', hfinish, hlists, -⟩ := h.finish
    refine ⟨l₁ ++ l₂, i :: free, by rw [hfinish]; exact hlists, fun k hmem hk => ?_⟩
    have hki : k ≠ i := fun heq => hk (congrArg some heq.symm)
    rw [List.mem_append, List.mem_cons] at hmem
    refine ⟨List.mem_append.mpr (hmem.imp_right fun h => h.resolve_left hki), ?_⟩
    have hi₁ : ∀ j ∈ l₁, (some j == some i) = false := by
      intro j hj
      have hnodup := (List.nodup_append.mp h.nodup).1
      have hne : j ≠ i := (List.nodup_append.mp hnodup).2.2 j hj i List.mem_cons_self
      simpa using hne
    rw [List.length_append, List.length_cons] at hlen
    have hfind : findFrom state.next (fun t => some t == some i) state.numPackets none
        state.currentPackets = (l₁.getLast?.or none, some i) :=
      findFrom_of_split h.currentSeg (by omega) hi₁ (by simp)
    unfold lowpanFragmenterFinishFragmentingIpv6Packet
    rw [hfind]
    dsimp only
    rw [LowpanFragGlobalState.packets_setPacket_of_ne hki, progress_setNext]
    split
    · rfl
    · exact progress_setNext _ _ _
  · have hfind : (findFrom state.next (fun t => some t == token) state.numPackets none
        state.currentPackets).2 = none := by
      refine findFrom_of_forall h.currentSeg (by omega) fun j hj => ?_
      have hne : some j ≠ token := fun heq => htoken ⟨j, hj, heq.symm⟩
      simpa using hne
    have hsame : (lowpanFragmenterFinishFragmentingIpv6Packet state token).2 = state := by
      unfold lowpanFragmenterFinishFragmentingIpv6Packet
      generalize findFrom state.next _ _ _ _ = found at hfind
      obtain ⟨prev, curr⟩ := found
      obtain rfl : curr = none := hfind
      rfl
    dsimp only
    rw [hsame]
    exact ⟨current, free, h, fun k hmem _ => ⟨hmem, rfl⟩⟩

/-- Every call keeps the lists, and only the finish of a token takes it out of the current ones. -/
theorem lists_step (content : ℕ → Ipv6Packet) {s : LowpanFragmenterClients}
    (h : s.state.Represents current free) (call : LowpanTokenCall) :
    ∃ current' free', (s.step content call).1.state.Represents current' free' ∧
      ∀ k ∈ current, call ≠ .finish (some k) → k ∈ current' := by
  cases call with
  | setFlags flags =>
    exact ⟨current, free, ⟨h.currentSeg, h.freeSeg, h.partition, h.packet⟩, fun k hk _ => hk⟩
  | start packet =>
    rw [step]
    dsimp only
    rcases h.start packet (content packet) with ⟨hrefused, -⟩ | ⟨i, rest, state', -, -, hstarted,
      hlists, -⟩
    · rw [hrefused]
      exact ⟨current, free, h, fun k hk _ => hk⟩
    · rw [hstarted]
      exact ⟨i :: current, rest, hlists, fun k hk _ => List.mem_cons_of_mem _ hk⟩
  | provideHeaders token hdrs =>
    exact ⟨current, free, h.setPacket rfl rfl, fun k hk _ => hk⟩
  | writeHeaders hdrs value => exact ⟨current, free, h, fun k hk _ => hk⟩
  | request token frame =>
    rw [step]
    dsimp only
    split
    · exact ⟨current, free, h, fun k hk _ => hk⟩
    next packet _ =>
      obtain ⟨hnext, hpacket⟩ := lowpanFragmenterRequestNextFragmentOfIpv6Packet_keeps
        s.state.fragFlags (s.state.packets token) (content packet)
        ((s.state.packets token).lowpanHdrs.map s.hdrs) frame
      exact ⟨current, free, h.setPacket hnext hpacket, fun k hk _ => hk⟩
  | finish token =>
    obtain ⟨current', free', hlists, hothers⟩ := lists_finish h token
    exact ⟨current', free', hlists, fun k hk hfinish => (hothers k hk fun heq =>
      hfinish (congrArg LowpanTokenCall.finish heq)).1⟩

end Others

/-! ## One packet -/

section OnePacket

variable {content : ℕ → Ipv6Packet} {s : LowpanFragmenterClients} {token packet : ℕ} {tag : UInt16}
  {results : List LowpanTokenResult} {call : LowpanTokenCall}

/-- The packet states are linked, one of them, in use, is the one of the token, and the slices so far
tile the packet up to its progress. -/
structure Fragmenting (content : ℕ → Ipv6Packet) (token packet : ℕ) (tag : UInt16)
    (s : LowpanFragmenterClients) (results : List LowpanTokenResult) : Prop where
  lists : ∃ current free, s.state.Represents current free ∧ token ∈ current
  hasPacket : (s.state.packets token).packet = some packet
  hasTag : (s.state.packets token).fragTag = tag
  fragmentable : LowpanFragmentable (content packet)
  le_size : (s.state.packets token).fragOffset.toNat ≤ lowpanPacketSize (content packet)
  aligned : (s.state.packets token).fragOffset.toNat % 8 = 0 ∨
    (s.state.packets token).fragOffset.toNat = lowpanPacketSize (content packet)
  tiles : Tiles 0 (slices token results) (s.state.packets token).fragOffset.toNat
  lengths : ∀ slice ∈ slices token results,
    (slice.stop - slice.start) % 8 = 0 ∨ slice.stop = lowpanPacketSize (content packet)
  carries : ∀ slice frame, LowpanTokenResult.fragment token slice frame ∈ results →
    LowpanFrameCarries tag (content packet) slice frame

theorem slices_append (results' : List LowpanTokenResult) :
    slices token (results ++ results') = slices token results ++ slices token results' :=
  List.filterMap_append

theorem slices_of_others (h : ∀ slice frame, .fragment token slice frame ∉ results) :
    slices token results = [] := by
  rw [slices, List.filterMap_eq_nil_iff]
  intro result hresult
  cases result with
  | fragment t slice frame =>
    refine if_neg ?_
    rintro rfl
    exact h slice frame hresult
  | started => rfl
  | refused => rfl
  | finished => rfl

theorem slices_fragment (slice : Span) (frame : Ieee154DframeInfo) :
    slices token [.fragment token slice frame] = [slice] := by
  simp [slices]

/-- Calls that do not advance the token keep what holds of it. -/
theorem Fragmenting.of_others {s' : LowpanFragmenterClients}
    {results' : List LowpanTokenResult}
    (h : Fragmenting content token packet tag s results)
    (hlists : ∃ current free, s'.state.Represents current free ∧ token ∈ current)
    (hsame : progress (s'.state.packets token) = progress (s.state.packets token))
    (hresults : ∀ slice frame, .fragment token slice frame ∉ results') :
    Fragmenting content token packet tag s' (results ++ results') := by
  obtain ⟨hpacket, hrest⟩ := Prod.mk.inj hsame
  obtain ⟨htag, hoffset⟩ := Prod.mk.inj hrest
  have hslices : slices token (results ++ results') = slices token results := by
    rw [slices_append, slices_of_others hresults, List.append_nil]
  exact
    { lists := hlists
      hasPacket := hpacket.trans h.hasPacket
      hasTag := htag.trans h.hasTag
      fragmentable := h.fragmentable
      le_size := by rw [hoffset]; exact h.le_size
      aligned := by rw [hoffset]; exact h.aligned
      tiles := by rw [hoffset, hslices]; exact h.tiles
      lengths := by rw [hslices]; exact h.lengths
      carries := fun slice frame hmem => h.carries slice frame
        ((List.mem_append.mp hmem).resolve_right (hresults slice frame)) }

/-- A fragment of the token advances it to the end of the slice. -/
theorem Fragmenting.advance (h : Fragmenting content token packet tag s results)
    {r : Whip6Error × LowpanFragPacketState × Option LowpanUnpackedFrameHeaders ×
      Ieee154DframeInfo} {hdrs : ℕ → LowpanUnpackedFrameHeaders} {len : ℕ}
    (hlists : ∃ current free, (s.state.setPacket token r.2.1).Represents current free ∧
      token ∈ current)
    (hadvance : 0 < len ∧
      (s.state.packets token).fragOffset.toNat + len ≤ lowpanPacketSize (content packet) ∧
      (len % 8 = 0 ∨
        (s.state.packets token).fragOffset.toNat + len = lowpanPacketSize (content packet)) ∧
      r.1 = .noError ∧
      r.2.1 = { s.state.packets token with
        fragOffset := UInt16.ofNat ((s.state.packets token).fragOffset.toNat + len) } ∧
      LowpanFrameCarries (s.state.packets token).fragTag (content packet)
        ⟨(s.state.packets token).fragOffset.toNat,
          (s.state.packets token).fragOffset.toNat + len⟩ r.2.2.2) :
    Fragmenting content token packet tag ⟨s.state.setPacket token r.2.1, hdrs⟩
      (results ++ [if r.1 = .noError then
          .fragment token ⟨(s.state.packets token).fragOffset.toNat, r.2.1.fragOffset.toNat⟩ r.2.2.2
        else .refused token r.1]) := by
  obtain ⟨hpos, hle, haligned, hok, htoken, hcarries⟩ := hadvance
  have hmax := lowpanPacketSize_le h.fragmentable
  set offset := (s.state.packets token).fragOffset.toNat with hoffset
  have hnext : r.2.1.fragOffset.toNat = offset + len := by
    rw [htoken, UInt16.toNat_ofNat']
    omega
  have hself : (s.state.setPacket token r.2.1).packets token = r.2.1 := Function.update_self _ _ _
  have hslices : slices token (results ++ [.fragment token ⟨offset, offset + len⟩ r.2.2.2]) =
      slices token results ++ [⟨offset, offset + len⟩] := by
    rw [slices_append, slices_fragment]
  rw [if_pos hok, hnext]
  exact
    { lists := hlists
      hasPacket := by rw [hself, htoken]; exact h.hasPacket
      hasTag := by rw [hself, htoken]; exact h.hasTag
      fragmentable := h.fragmentable
      le_size := by rw [hself, hnext]; exact hle
      aligned := by
        rw [hself, hnext]
        have hbefore := h.aligned
        omega
      tiles := by
        rw [hself, hnext, hslices]
        exact h.tiles.concat rfl (Nat.lt_add_of_pos_right hpos)
      lengths := by
        rw [hslices]
        intro slice hslice
        rcases List.mem_append.mp hslice with hslice | hslice
        · exact h.lengths slice hslice
        · obtain rfl := List.mem_singleton.mp hslice
          rwa [Nat.add_sub_cancel_left]
      carries := by
        intro slice frame hresult
        rcases List.mem_append.mp hresult with hresult | hresult
        · exact h.carries slice frame hresult
        · cases List.mem_singleton.mp hresult
          exact h.hasTag ▸ hcarries }

/-- A step of a run between the start and the finish of a packet. -/
theorem Fragmenting.step (h : Fragmenting content token packet tag s results)
    (hallowed : Allowed s call) (hfinish : call ≠ .finish (some token)) :
    Fragmenting content token packet tag (s.step content call).1
      (results ++ (s.step content call).2) := by
  obtain ⟨current, free, hlists, hmem⟩ := h.lists
  obtain ⟨current', free', hlists', hkept⟩ := lists_step content hlists call
  have hnext : ∃ current free, (s.step content call).1.state.Represents current free ∧
      token ∈ current := ⟨current', free', hlists', hkept token hmem hfinish⟩
  cases call with
  | setFlags flags => exact h.of_others hnext rfl fun _ _ => List.not_mem_nil
  | start p =>
    refine h.of_others hnext ?_ fun slice frame hresult => by cases List.mem_singleton.mp hresult
    rw [LowpanFragmenterClients.step]
    dsimp only
    rcases hlists.start p (content p) with ⟨hrefused, -⟩ | ⟨i, rest, state', hfree, -, hstarted, -,
      -, -, hothers, -⟩
    · rw [hrefused]
    · have hne : token ≠ i := by
        have hnodup := hlists.nodup
        rw [hfree] at hnodup
        exact (List.nodup_append.mp hnodup).2.2 token hmem i List.mem_cons_self
      rw [hstarted, hothers token hne]
  | provideHeaders t hdrs =>
    exact h.of_others hnext (progress_setPacket t token rfl) fun _ _ => List.not_mem_nil
  | writeHeaders hdrs value => exact h.of_others hnext rfl fun _ _ => List.not_mem_nil
  | request t frame =>
    rw [LowpanFragmenterClients.step] at hnext ⊢
    dsimp only at hnext ⊢
    split at hnext
    next =>
      exact h.of_others hnext rfl fun _ _ => List.not_mem_nil
    next p hp =>
      by_cases hother : token = t
      · subst hother
        obtain rfl : packet = p := Option.some.inj (h.hasPacket.symm.trans hp)
        have hspec := lowpanFragmenterRequestNextFragmentOfIpv6Packet_spec h.fragmentable hallowed.2
          h.le_size h.aligned s.state.fragFlags ((s.state.packets token).lowpanHdrs.map s.hdrs)
        generalize lowpanFragmenterRequestNextFragmentOfIpv6Packet s.state.fragFlags
          (s.state.packets token) (content packet) ((s.state.packets token).lowpanHdrs.map s.hdrs)
          frame = r at hspec hnext ⊢
        rcases hspec with ⟨herror, hsame⟩ | ⟨len, hadvance⟩
        · refine h.of_others hnext (progress_setPacket token token (congrArg progress hsame))
            fun slice frame hresult => ?_
          rw [if_neg herror] at hresult
          cases List.mem_singleton.mp hresult
        · exact h.advance hnext hadvance
      · refine h.of_others hnext ?_ fun slice frame hresult => ?_
        · dsimp only
          rw [LowpanFragGlobalState.packets_setPacket_of_ne hother]
        · rw [List.mem_singleton] at hresult
          split_ifs at hresult
          · cases hresult
            exact hother rfl
  | finish t =>
    obtain ⟨_, _, _, hothers⟩ := lists_finish hlists t
    refine h.of_others hnext (hothers token hmem fun heq => hfinish (congrArg _ heq)).2
      fun slice frame hresult => ?_
    cases List.mem_singleton.mp hresult

/-- A packet that was just started. -/
theorem Fragmenting.start (hlists : ∃ current free, s.state.Represents current free)
    (hstart : (lowpanFragmenterStartFragmentingIpv6Packet s.state packet (content packet)).1 =
      some token) :
    Fragmenting content token packet s.state.tagGenerator (s.step content (.start packet)).1
      (s.step content (.start packet)).2 := by
  obtain ⟨current, free, hlists⟩ := hlists
  have htag : ((lowpanFragmenterStartFragmentingIpv6Packet s.state packet
      (content packet)).2.packets token).fragTag = s.state.tagGenerator := by
    unfold lowpanFragmenterStartFragmentingIpv6Packet at hstart ⊢
    split at hstart
    · cases hstart
    next i hfree =>
      dsimp only at hstart ⊢
      split_ifs at hstart ⊢
      obtain rfl := Option.some.inj hstart
      simp [LowpanFragGlobalState.setPacket]
  rw [LowpanFragmenterClients.step]
  dsimp only
  rcases hlists.start packet (content packet) with ⟨hrefused, -⟩ | ⟨i, rest, state', -, haccepts,
    hstarted, hlists', hpacket, hoffset, -, -⟩
  · rw [hrefused] at hstart
    cases hstart
  · rw [hstarted] at hstart htag ⊢
    obtain rfl := Option.some.inj hstart
    have hzero : (state'.packets i).fragOffset.toNat = 0 := by rw [hoffset]; rfl
    exact
      { lists := ⟨i :: current, rest, hlists', List.mem_cons_self⟩
        hasPacket := hpacket
        hasTag := htag
        fragmentable := ⟨haccepts.2.1, haccepts.2.2⟩
        le_size := by rw [hzero]; exact Nat.zero_le _
        aligned := Or.inl (by rw [hzero])
        tiles := hzero.symm
        lengths := fun slice hslice => absurd hslice List.not_mem_nil
        carries := fun slice frame hresult => by cases List.mem_singleton.mp hresult }

end OnePacket

/-! ## Runs -/

section Runs

variable {content : ℕ → Ipv6Packet} {token packet : ℕ}

theorem lists_run (content : ℕ → Ipv6Packet) (packets : ℕ → LowpanFragPacketState)
    (pktsArrLen : UInt8) (hdrs : ℕ → LowpanUnpackedFrameHeaders)
    (calls : List LowpanTokenCall) :
    ∃ current free, (run (step content) (initial packets pktsArrLen hdrs)
      calls).1.state.Represents current free := by
  induction calls using List.reverseRecOn with
  | nil => exact ⟨[], _, LowpanFragGlobalState.init_represents packets pktsArrLen⟩
  | append_singleton calls call ih =>
    obtain ⟨current, free, hlists⟩ := ih
    obtain ⟨current', free', hlists', -⟩ := lists_step content hlists call
    rw [run_append_singleton]
    exact ⟨current', free', hlists'⟩

/-- What holds of a packet in every run from its start on that does not finish it. -/
theorem fragmenting_run {s : LowpanFragmenterClients} {tag : UInt16}
    {results : List LowpanTokenResult} {calls : List LowpanTokenCall}
    (h : Fragmenting content token packet tag s results)
    (hallowed : RunMeets (step content) Allowed s calls)
    (hfinish : .finish (some token) ∉ calls) :
    Fragmenting content token packet tag (run (step content) s calls).1
      (results ++ (run (step content) s calls).2) := by
  induction calls generalizing s results with
  | nil =>
    rw [run, List.append_nil]
    exact h
  | cons call calls ih =>
    rw [List.mem_cons, not_or] at hfinish
    have hrun := ih (h.step hallowed.1 (Ne.symm hfinish.1)) hallowed.2 hfinish.2
    rw [List.append_assoc] at hrun
    exact hrun

/-- A request that is refused leaves the packet state alone. -/
theorem Fragmenting.refused {s : LowpanFragmenterClients} {tag : UInt16}
    {results : List LowpanTokenResult} {frame : Ieee154DframeInfo} {error : Whip6Error}
    (h : Fragmenting content token packet tag s results) (hframe : frame.Valid)
    (hrefused : .refused token error ∈ (s.step content (.request token frame)).2) :
    (s.step content (.request token frame)).1.state.packets token = s.state.packets token := by
  rw [LowpanFragmenterClients.step] at hrefused ⊢
  dsimp only at hrefused ⊢
  rw [h.hasPacket] at hrefused ⊢
  dsimp only at hrefused ⊢
  have hspec := lowpanFragmenterRequestNextFragmentOfIpv6Packet_spec h.fragmentable hframe
    h.le_size h.aligned s.state.fragFlags ((s.state.packets token).lowpanHdrs.map s.hdrs)
  rcases hspec with ⟨-, hsame⟩ | ⟨len, -, -, -, hok, -, -⟩
  · rw [hsame, LowpanFragGlobalState.setPacket]
    dsimp only
    rw [Function.update_self]
  · rw [if_pos hok] at hrefused
    cases List.mem_singleton.mp hrefused

/-- **The slices of a packet partition it.**  Take any run of calls from the initialisation of the
fragmenter on, and any packet started in it, up to its finish.  Whatever is called for other tokens
and whatever frames are given, with shared header objects or without: the slices in the frames of
its token tile the packet up to the progress of the token, and all of the packet when no next
fragment exists; all but the last are multiples of eight bytes; each frame carries the tag of the
token, the size of the packet, the start of the slice and its bytes; and a refused request leaves
the packet state alone. -/
theorem lowpanFragmenter_slices (content : ℕ → Ipv6Packet)
    (packets : ℕ → LowpanFragPacketState) (pktsArrLen : UInt8)
    (hdrs : ℕ → LowpanUnpackedFrameHeaders) (calls calls' : List LowpanTokenCall)
    (packet token : ℕ)
    (hallowed : RunMeets (step content) Allowed (initial packets pktsArrLen hdrs)
      (calls ++ .start packet :: calls'))
    (hstart : (lowpanFragmenterStartFragmentingIpv6Packet
      (run (step content) (initial packets pktsArrLen hdrs) calls).1.state packet
      (content packet)).1 = some token)
    (hfinish : .finish (some token) ∉ calls') :
    let before := (run (step content) (initial packets pktsArrLen hdrs) calls).1
    let after := run (step content) before (.start packet :: calls')
    let progress := after.1.state.packets token
    let size := lowpanPacketSize (content packet)
    let parts := slices token after.2
    Tiles 0 parts progress.fragOffset.toNat ∧ progress.fragOffset.toNat ≤ size ∧
      (∀ first last, parts = first ++ [last] →
        ∀ slice ∈ first, slice.start < slice.stop ∧ (slice.stop - slice.start) % 8 = 0) ∧
      (∀ slice frame, .fragment token slice frame ∈ after.2 →
        LowpanFrameCarries before.state.tagGenerator (content packet) slice frame) ∧
      (lowpanFragmenterDoesNextFragmentOfIpv6PacketExist progress (content packet) = false ↔
        progress.fragOffset.toNat = size) ∧
      (lowpanFragmenterDoesNextFragmentOfIpv6PacketExist progress (content packet) = false →
        Tiles 0 parts size ∧ ∀ n < size, ∃! slice, slice ∈ parts ∧ n ∈ slice) ∧
      ∀ frame error, frame.Valid →
        .refused token error ∈ (step content after.1 (.request token frame)).2 →
          (step content after.1 (.request token frame)).1.state.packets token = progress := by
  intro before after progress size parts
  have hrest := (runMeets_append.mp hallowed).2.2
  have hfragmenting : Fragmenting content token packet before.state.tagGenerator after.1 after.2 :=
    fragmenting_run (Fragmenting.start (lists_run content packets pktsArrLen hdrs calls) hstart)
      hrest hfinish
  have hexists : lowpanFragmenterDoesNextFragmentOfIpv6PacketExist progress (content packet) =
      false ↔ progress.fragOffset.toNat = size := by
    have hle : progress.fragOffset.toNat ≤ size := hfragmenting.le_size
    rw [lowpanFragmenterDoesNextFragmentOfIpv6PacketExist, decide_eq_false_iff_not]
    dsimp only [size] at hle ⊢
    rw [lowpanPacketSize] at hle ⊢
    omega
  refine ⟨hfragmenting.tiles, hfragmenting.le_size, ?_, hfragmenting.carries, hexists, ?_, ?_⟩
  · intro first last hparts slice hslice
    have htiles : Tiles 0 (first ++ [last]) progress.fragOffset.toNat :=
      hparts ▸ hfragmenting.tiles
    have hmem : slice ∈ parts := hparts ▸ List.mem_append_left _ hslice
    have hend := htiles.stop_lt slice hslice
    have hle : progress.fragOffset.toNat ≤ size := hfragmenting.le_size
    refine ⟨(hfragmenting.tiles.within slice hmem).2.1, ?_⟩
    exact (hfragmenting.lengths slice hmem).resolve_right (hend.trans_le hle).ne
  · intro hdone
    have htiles : Tiles 0 parts size := hexists.mp hdone ▸ hfragmenting.tiles
    exact ⟨htiles, fun n hn => htiles.exists_unique n.zero_le hn⟩
  · exact fun frame error hframe hrefused => hfragmenting.refused hframe hrefused

/-- Two packets, with fragments requested in turn and with one header object for both. -/
theorem lowpanFragmenter_slices_shared :
    let content : ℕ → Ipv6Packet := fun _ => ⟨⟨List.replicate 40 0, rfl⟩, []⟩
    let frame : Ieee154DframeInfo := ⟨List.replicate 60 0, 60, 10, 66, 0x44⟩
    let blank : ℕ → LowpanFragPacketState := fun _ => ⟨none, none, none, 0, 0⟩
    let hdrs : ℕ → LowpanUnpackedFrameHeaders := fun _ =>
      ⟨.empty, 0, ⟨0, 0, 0⟩, ⟨0, .none, .none⟩, ⟨0⟩⟩
    let before := (run (step content) (initial blank 2 hdrs) [.start 5]).1
    let after := run (step content) before (.start 6 :: [.provideHeaders 0 0, .provideHeaders 1 0,
      .request 1 frame, .request 0 frame])
    slices 1 after.2 = [⟨0, 40⟩] ∧
      Tiles 0 (slices 1 after.2) (after.1.state.packets 1).fragOffset.toNat := by
  intro content frame blank hdrs before after
  have hframe : frame.Valid := ⟨by decide, by decide⟩
  have hfirst : ((run (step content) (initial blank 2 hdrs)
      [.start 5, .start 6]).1.state.packets 0).packet.isSome := by decide +kernel
  have hsecond : ((run (step content) (initial blank 2 hdrs)
      [.start 5, .start 6, .provideHeaders 0 0]).1.state.packets 1).packet.isSome := by
    decide +kernel
  have hthird : ((run (step content) (initial blank 2 hdrs)
      [.start 5, .start 6, .provideHeaders 0 0,
        .provideHeaders 1 0]).1.state.packets 1).packet.isSome := by
    decide +kernel
  have hfourth : ((run (step content) (initial blank 2 hdrs)
      [.start 5, .start 6, .provideHeaders 0 0, .provideHeaders 1 0,
        .request 1 frame]).1.state.packets 0).packet.isSome := by
    decide +kernel
  exact ⟨by decide +kernel, (lowpanFragmenter_slices content blank 2 hdrs [.start 5] [.provideHeaders 0 0,
    .provideHeaders 1 0, .request 1 frame, .request 0 frame] 6 1
    ⟨trivial, trivial, hfirst, hsecond, ⟨hthird, hframe⟩, ⟨hfourth, hframe⟩, trivial⟩
    (by decide +kernel)
    (by simp)).1⟩

end Runs

end LowpanFragmenterClients

end Whip6
