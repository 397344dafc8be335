import Whip6.Containers.RandomAES
import Whip6.Lib.Progress
import Whip6.Lib.Simulation

/-!
# Runs of the random generator

What users may rely on is a key stream: counter blocks are encrypted, each at most once, and the
bytes of an encrypted block are handed out in their order, each at most once (`KeyStream.Step`).
The generator keeps to it as long as requests fit into what is cached or else into one block, no bytes
are asked for after an encryption has failed, the instances encrypt in turn, and an instance is not
initialized after the counter has left zero (`randomAES_keyStream`).
-/

namespace Whip6

open Lib

/-! ## The counter -/

/-- The number that a block stands for. -/
def counterValue (block : AesBlock) : ℕ := Nat.ofDigits 256 (block.1.reverse.map UInt8.toNat)

theorem ofDigits_incrementLoop (bytes : List UInt8)
    (h : (SharedCounter.incrementLoop bytes).1 = false) :
    Nat.ofDigits 256 ((SharedCounter.incrementLoop bytes).2.map UInt8.toNat) =
      Nat.ofDigits 256 (bytes.map UInt8.toNat) + 1 := by
  induction bytes with
  | nil => cases h
  | cons b bytes ih =>
    rw [SharedCounter.incrementLoop] at h ⊢
    split_ifs at h ⊢ with hmax
    · subst hmax
      have hrest := ih h
      simp only [List.map_cons, Nat.ofDigits_cons, hrest]
      change 0 + 256 * _ = 255 + 256 * _ + 1
      omega
    · have hsucc : (b + 1).toNat = b.toNat + 1 := by
        have hlt := b.toNat_lt
        have hne : b.toNat ≠ 255 := fun heq => hmax (UInt8.toNat_inj.mp heq)
        rw [UInt8.toNat_add]
        change (_ + 1) % 2 ^ 8 = _
        omega
      simp only [List.map_cons, Nat.ofDigits_cons, hsucc]
      omega

theorem counterValue_increment {counter : AesBlock}
    (h : (SharedCounter.increment counter).1 = false) :
    counterValue (SharedCounter.increment counter).2 = counterValue counter + 1 := by
  rw [counterValue, SharedCounter.increment]
  dsimp only
  rw [List.reverse_reverse]
  exact ofDigits_incrementLoop _ h

/-! ## Key streams -/

/-- A byte of the key stream, as a place of an encrypted block. -/
abbrev KeyByte := AesBlock × ℕ

def KeyByte.value (encrypt : AesBlock → AesBlock) (byte : KeyByte) : UInt8 :=
  (encrypt byte.1).1.getD byte.2 0

/-- The bytes of an encrypted block. -/
def keyBytes (block : AesBlock) : List KeyByte :=
  (List.range AES128_BLOCK_SIZE_BYTES).map fun k => (block, k)

theorem map_value_keyBytes (encrypt : AesBlock → AesBlock) (block : AesBlock) :
    (keyBytes block).map (KeyByte.value encrypt) = (encrypt block).1 := by
  have hlength := (encrypt block).2
  apply List.ext_getElem
  · rw [List.length_map, keyBytes, List.length_map, List.length_range, hlength]
  · intro k h1 h2
    simp [keyBytes, KeyByte.value, h2]

/-- The blocks that were encrypted, the bytes that each instance has left, those that were handed
out, and the lengths of the requests that were accepted and are not finished. -/
structure KeyStream where
  issued : List AesBlock
  cache : ℕ → List KeyByte
  handed : List KeyByte
  pending : ℕ → Option UInt16

namespace KeyStream

inductive Step (encrypt : AesBlock → AesBlock) : KeyStream → RandomAESAct → KeyStream → Prop
  | accepted (m : KeyStream) {i : ℕ} (length : UInt16) (h : m.pending i = none) :
    Step encrypt m (.accepted i length)
      { m with pending := Function.update m.pending i (some length) }
  | encrypted (m : KeyStream) {i : ℕ} {block : AesBlock} (hpending : (m.pending i).isSome)
    (hcache : m.cache i = []) (hfresh : block ∉ m.issued) :
    Step encrypt m (.encrypted i block)
      { m with
        issued := block :: m.issued
        cache := Function.update m.cache i (keyBytes block) }
  | encryptionFailed (m : KeyStream) {i : ℕ} (hpending : (m.pending i).isSome) :
    Step encrypt m (.encryptionFailed i) m
  | done (m : KeyStream) {i : ℕ} {length : UInt16} {bytes rest : List KeyByte}
    (hpending : m.pending i = some length) (hcache : m.cache i = bytes ++ rest)
    (hlength : bytes.length = length.toNat) :
    Step encrypt m (.generateRandomDone i SUCCESS (bytes.map (KeyByte.value encrypt)))
      { m with
        cache := Function.update m.cache i rest
        handed := m.handed ++ bytes
        pending := Function.update m.pending i none }
  | failed (m : KeyStream) {i : ℕ} {error : ErrorT} {bytes : List UInt8}
    (hpending : (m.pending i).isSome) (herror : error ≠ SUCCESS) :
    Step encrypt m (.generateRandomDone i error bytes)
      { m with pending := Function.update m.pending i none }

def empty : KeyStream := ⟨[], fun _ => [], [], fun _ => none⟩

/-- Every byte is at one place. -/
structure Distinct (m : KeyStream) : Prop where
  issued : ∀ i, ∀ byte ∈ m.handed ++ m.cache i, byte.1 ∈ m.issued
  nodup : ∀ i, (m.handed ++ m.cache i).Nodup
  disjoint : ∀ i j, i ≠ j → (m.cache i).Disjoint (m.cache j)

variable {encrypt : AesBlock → AesBlock} {m m' : KeyStream}

theorem nodup_keyBytes (block : AesBlock) : (keyBytes block).Nodup :=
  List.nodup_range.map fun _ _ h => (Prod.mk.inj h).2

theorem fst_of_mem_keyBytes {block : AesBlock} {byte : KeyByte} (h : byte ∈ keyBytes block) :
    byte.1 = block := by
  obtain ⟨k, -, rfl⟩ := List.mem_map.mp h
  rfl

theorem Step.distinct {act : RandomAESAct} (h : Step encrypt m act m') (hm : m.Distinct) :
    m'.Distinct := by
  cases h with
  | accepted length h => exact ⟨hm.issued, hm.nodup, hm.disjoint⟩
  | encryptionFailed hpending => exact hm
  | failed hpending herror => exact ⟨hm.issued, hm.nodup, hm.disjoint⟩
  | @encrypted i block hpending hcache hfresh =>
    have hnew : ∀ j, ∀ byte ∈ m.handed ++ m.cache j, byte ∉ keyBytes block :=
      fun j byte hbyte hmem =>
      hfresh (fst_of_mem_keyBytes hmem ▸ hm.issued j byte hbyte)
    constructor
    · intro j byte hbyte
      dsimp only at hbyte ⊢
      by_cases hj : j = i
      · subst hj
        rw [Function.update_self] at hbyte
        rcases List.mem_append.mp hbyte with hhanded | hblock
        · exact List.mem_cons_of_mem _ (hm.issued j byte (List.mem_append_left _ hhanded))
        · rw [fst_of_mem_keyBytes hblock]
          exact List.mem_cons_self
      · rw [Function.update_of_ne hj] at hbyte
        exact List.mem_cons_of_mem _ (hm.issued j byte hbyte)
    · intro j
      dsimp only
      by_cases hj : j = i
      · subst hj
        rw [Function.update_self]
        refine List.Nodup.append (List.Nodup.of_append_left (hm.nodup j)) (nodup_keyBytes block) ?_
        exact fun byte hbyte => hnew j byte (List.mem_append_left _ hbyte)
      · rw [Function.update_of_ne hj]
        exact hm.nodup j
    · intro j k hjk
      dsimp only
      by_cases hj : j = i
      · subst hj
        rw [Function.update_self, Function.update_of_ne hjk.symm]
        exact fun byte hblock hcached => hnew k byte (List.mem_append_right _ hcached) hblock
      · rw [Function.update_of_ne hj]
        by_cases hk : k = i
        · subst hk
          rw [Function.update_self]
          exact fun byte hcached => hnew j byte (List.mem_append_right _ hcached)
        · rw [Function.update_of_ne hk]
          exact hm.disjoint j k hjk
  | @done i length bytes rest hpending hcache hlength =>
    have hsub : ∀ j, (Function.update m.cache i rest j).Sublist (m.cache j) := by
      intro j
      by_cases hj : j = i
      · subst hj
        rw [Function.update_self, hcache]
        exact List.sublist_append_right _ _
      · rw [Function.update_of_ne hj]
    have hdisj : ∀ j, j ≠ i → ∀ byte ∈ bytes, byte ∉ m.cache j := fun j hj byte hbyte =>
      (hm.disjoint i j hj.symm) (hcache ▸ List.mem_append_left _ hbyte)
    have hi := hm.nodup i
    rw [hcache, ← List.append_assoc] at hi
    constructor
    · intro j byte hbyte
      dsimp only at hbyte ⊢
      rcases List.mem_append.mp hbyte with hhanded | hcached
      · refine hm.issued i byte ?_
        rw [hcache, ← List.append_assoc]
        exact List.mem_append_left _ hhanded
      · exact hm.issued j byte (List.mem_append_right _ ((hsub j).subset hcached))
    · intro j
      dsimp only
      by_cases hj : j = i
      · subst hj
        rw [Function.update_self]
        exact hi
      · rw [Function.update_of_ne hj]
        have hj' := List.nodup_append.mp (hm.nodup j)
        refine List.Nodup.append (List.Nodup.of_append_left hi) hj'.2.1 ?_
        intro byte hbyte hcached
        rcases List.mem_append.mp hbyte with hhanded | hnew
        · exact hj'.2.2 byte hhanded byte hcached rfl
        · exact hdisj j hj byte hnew hcached
    · intro j k hjk byte hjmem hkmem
      exact hm.disjoint j k hjk ((hsub j).subset hjmem) ((hsub k).subset hkmem)

/-- No byte is handed out twice. -/
theorem nodup_of_specRun {acts : List RandomAESAct} (h : SpecRun (Step encrypt) m acts m')
    (hm : m.Distinct) : m'.handed.Nodup := by
  induction h with
  | nil m => exact List.Nodup.of_append_left (hm.nodup 0)
  | cons head tail ih => exact ih (head.distinct hm)

theorem distinct_empty : empty.Distinct :=
  ⟨fun _ _ h => absurd h List.not_mem_nil, fun _ => List.nodup_nil,
    fun _ _ _ _ h => absurd h List.not_mem_nil⟩

end KeyStream

/-! ## The generator -/

namespace RandomAESSystem

variable {encrypt : AesBlock → AesBlock}

/-- Whether the last encryption of an instance has failed. -/
def encryptionFailed (i : ℕ) : List RandomAESAct → Bool :=
  List.foldl (fun failed act =>
    match act with
    | .encrypted j _ => if j = i then false else failed
    | .encryptionFailed j => if j = i then true else failed
    | _ => failed) false

/-- A request that is served from what is cached, or from one block when nothing is. -/
def Served (random : RandomAES) (length : UInt16) : Prop :=
  length.toNat ≤ AES128_BLOCK_SIZE_BYTES - random.cachePos.toNat ∨
    random.cachePos.toNat = AES128_BLOCK_SIZE_BYTES ∧ length.toNat ≤ AES128_BLOCK_SIZE_BYTES

/-- The generator keeps to the key stream. -/
def Meets (w : Watched RandomAESSystem RandomAESAct) : RandomAESEvent → Prop
  | .init i seedIsNull => seedIsNull = false → (w.state.instances i).initialized = false →
    w.state.counter = SharedCounter.zero
  | .generateRandom i buffer length =>
    (w.state.instances i).initialized = true → (w.state.instances i).busy = false →
      buffer.isSome → Served (w.state.instances i) length ∧
        (encryptionFailed i w.history = true → length = 0)
  | .generateNextBlockTask i answer =>
    let random := w.state.instances i
    random.generateNextBlockTaskPosted = true →
      AES128_BLOCK_SIZE_BYTES - random.cachePos.toNat < random.length.toNat → answer = SUCCESS →
        ∀ j, (w.state.instances j).encrypting = false
  | .cryptMessageDone i _ _ _ => (w.state.instances i).encrypting = true →
    (SharedCounter.increment w.state.counter).1 = false

/-- An instance has these bytes left and this request. -/
structure InstanceStands (encrypt : AesBlock → AesBlock) (random : RandomAES) (failed : Bool)
    (counter : AesBlock) (cache : List KeyByte) (pending : Option UInt16) : Prop where
  pending : pending = if random.busy then some random.length else none
  idle : random.busy = false →
    random.generateNextBlockTaskPosted = false ∧ random.encrypting = false
  busy : random.busy = true → random.lengthLeft = random.length ∧
    random.generateNextBlockTaskPosted = !random.encrypting
  pos : random.cachePos.toNat ≤ AES128_BLOCK_SIZE_BYTES
  served : random.generateNextBlockTaskPosted = true → Served random random.length ∧
    (failed = true → random.length = 0)
  encrypting : random.encrypting = true → failed = false ∧ random.cache = counter ∧ cache = [] ∧
    random.cachePos.toNat = AES128_BLOCK_SIZE_BYTES ∧
      random.length.toNat ≤ AES128_BLOCK_SIZE_BYTES
  good : failed = false → random.encrypting = false →
    cache.map (KeyByte.value encrypt) = random.cache.1.drop random.cachePos.toNat
  poisoned : failed = true → cache = []

structure StandsFor (encrypt : AesBlock → AesBlock) (w : Watched RandomAESSystem RandomAESAct)
    (m : KeyStream) : Prop where
  issued : ∀ block ∈ m.issued, counterValue block < counterValue w.state.counter
  inTurn : ∀ i j, (w.state.instances i).encrypting = true →
    (w.state.instances j).encrypting = true → i = j
  each : ∀ i, InstanceStands encrypt (w.state.instances i) (encryptionFailed i w.history)
    w.state.counter (m.cache i) (m.pending i)

theorem standsFor_boot (encrypt : AesBlock → AesBlock) : StandsFor encrypt ⟨boot, []⟩ .empty where
  issued := fun block h => absurd h List.not_mem_nil
  inTurn := fun i j h => by cases h
  each := fun i =>
    { pending := rfl
      idle := fun _ => ⟨rfl, rfl⟩
      busy := fun h => by cases h
      pos := le_rfl
      served := fun h => by cases h
      encrypting := fun h => by cases h
      good := fun _ _ => rfl
      poisoned := fun _ => rfl }

/-! ## Serving requests -/

variable {random : RandomAES}

/-- A request that is served from the cache. -/
theorem copyFromCache_of_le (hpos : random.cachePos.toNat ≤ AES128_BLOCK_SIZE_BYTES)
    (hle : random.length.toNat ≤ AES128_BLOCK_SIZE_BYTES - random.cachePos.toNat)
    (hleft : random.lengthLeft = random.length) :
    random.copyFromCache.lengthLeft = 0 ∧
      random.copyFromCache.cachePos.toNat = random.cachePos.toNat + random.length.toNat ∧
      (List.range random.length.toNat).map random.copyFromCache.buffer =
        (random.cache.1.drop random.cachePos.toNat).take random.length.toNat := by
  have hmin : min (AES128_BLOCK_SIZE_BYTES - random.cachePos.toNat) random.length.toNat =
      random.length.toNat := Nat.min_eq_right hle
  have hblock : AES128_BLOCK_SIZE_BYTES = 16 := rfl
  rw [RandomAES.copyFromCache]
  dsimp only
  rw [hmin, hleft]
  refine ⟨?_, ?_, ?_⟩
  · rw [UInt16.ofNat_toNat, UInt16.sub_self]
  · rw [UInt8.toNat_add, UInt8.toNat_ofNat']
    omega
  · have hlength := random.cache.2
    apply List.ext_getElem
    · rw [List.length_map, List.length_range, List.length_take, List.length_drop, hlength,
        Nat.min_eq_left hle]
    · intro k h1 h2
      rw [List.getElem_map, List.getElem_range, List.getD_eq_getElem _ _ h2]

/-- A request that finds the cache empty. -/
theorem copyFromCache_of_empty (hpos : random.cachePos.toNat = AES128_BLOCK_SIZE_BYTES) :
    random.copyFromCache = random := by
  have hmin : min (AES128_BLOCK_SIZE_BYTES - random.cachePos.toNat) random.length.toNat = 0 := by
    rw [hpos, Nat.sub_self, Nat.zero_min]
  rw [RandomAES.copyFromCache, hmin, List.take_zero]
  simp

theorem generateNextBlock_of_le (i : ℕ) (counter : AesBlock) (answer : ErrorT)
    (hpos : random.cachePos.toNat ≤ AES128_BLOCK_SIZE_BYTES)
    (hle : random.length.toNat ≤ AES128_BLOCK_SIZE_BYTES - random.cachePos.toNat)
    (hleft : random.lengthLeft = random.length) :
    random.generateNextBlock i counter answer =
      ({ random.copyFromCache with busy := false }, [.generateRandomDone i SUCCESS
        ((random.cache.1.drop random.cachePos.toNat).take random.length.toNat)]) := by
  obtain ⟨hzero, -, hbytes⟩ := copyFromCache_of_le hpos hle hleft
  rw [RandomAES.generateNextBlock]
  dsimp only
  rw [if_pos hzero, RandomAES.finishGenerating, ← hbytes]
  rfl

theorem generateNextBlock_of_empty (random : RandomAES) (i : ℕ) (counter : AesBlock)
    (answer : ErrorT) (hpos : random.cachePos.toNat = AES128_BLOCK_SIZE_BYTES)
    (hleft : random.lengthLeft ≠ 0) :
    random.generateNextBlock i counter answer =
      if answer ≠ SUCCESS then { random with cache := counter }.finishGenerating i answer
      else ({ random with cache := counter, encrypting := true }, []) := by
  rw [RandomAES.generateNextBlock, copyFromCache_of_empty hpos]
  dsimp only
  rw [if_neg hleft]

/-- The bytes that a request takes from the cache. -/
theorem serve (encrypt : AesBlock → AesBlock) (random : RandomAES) (failed : Bool)
    (cache : List KeyByte) (i : ℕ) (counter counter' : AesBlock) (answer : ErrorT)
    (hpos : random.cachePos.toNat ≤ AES128_BLOCK_SIZE_BYTES)
    (hle : random.length.toNat ≤ AES128_BLOCK_SIZE_BYTES - random.cachePos.toNat)
    (hleft : random.lengthLeft = random.length)
    (hposted : random.generateNextBlockTaskPosted = false)
    (hencrypting : random.encrypting = false)
    (hgood : failed = false →
      cache.map (KeyByte.value encrypt) = random.cache.1.drop random.cachePos.toNat)
    (hpoisoned : failed = true → cache = [] ∧ random.length = 0) :
    let r := random.generateNextBlock i counter answer
    ∃ bytes rest, cache = bytes ++ rest ∧ bytes.length = random.length.toNat ∧
      r.2 = [.generateRandomDone i SUCCESS (bytes.map (KeyByte.value encrypt))] ∧
      r.1.encrypting = false ∧ InstanceStands encrypt r.1 failed counter' rest none := by
  have hnext := generateNextBlock_of_le i counter answer hpos hle hleft
  obtain ⟨-, hcachePos, -⟩ := copyFromCache_of_le hpos hle hleft
  have hcount : random.length.toNat ≤ cache.length := by
    cases hfailed : failed with
    | true =>
      rw [(hpoisoned hfailed).2]
      exact Nat.zero_le _
    | false =>
      have hlength := congrArg List.length (hgood hfailed)
      rw [List.length_map, List.length_drop, random.cache.2] at hlength
      omega
  have hvalues : (cache.take random.length.toNat).map (KeyByte.value encrypt) =
      (random.cache.1.drop random.cachePos.toNat).take random.length.toNat := by
    cases hfailed : failed with
    | true =>
      have hzero : random.length.toNat = 0 := congrArg UInt16.toNat (hpoisoned hfailed).2
      rw [hzero, List.take_zero, List.take_zero, List.map_nil]
    | false => rw [List.map_take, hgood hfailed]
  intro r
  refine ⟨cache.take random.length.toNat, cache.drop random.length.toNat,
    (List.take_append_drop _ _).symm, ?_, ?_, ?_, ?_⟩
  · rw [List.length_take, Nat.min_eq_left hcount]
  · rw [hvalues]
    exact congrArg Prod.snd hnext
  all_goals
    have hr : r.1 = { random.copyFromCache with busy := false } := congrArg Prod.fst hnext
    rw [hr]
  · exact hencrypting
  · exact
      { pending := rfl
        idle := fun _ => ⟨hposted, hencrypting⟩
        busy := fun hbusy => by cases hbusy
        pos := by
          change random.copyFromCache.cachePos.toNat ≤ _
          omega
        served := fun hserved => by
          change random.generateNextBlockTaskPosted = true at hserved
          rw [hposted] at hserved
          cases hserved
        encrypting := fun hbusy => by
          change random.encrypting = true at hbusy
          rw [hencrypting] at hbusy
          cases hbusy
        good := fun hfailed _ => by
          change _ = random.cache.1.drop random.copyFromCache.cachePos.toNat
          rw [hcachePos, List.map_drop, hgood hfailed, List.drop_drop]
        poisoned := fun hfailed => by rw [(hpoisoned hfailed).1, List.drop_nil] }

/-! ## Steps -/

variable {s : RandomAESSystem} {history : List RandomAESAct} {m : KeyStream}

theorem encryptionFailed_append (i : ℕ) (history acts : List RandomAESAct) :
    encryptionFailed i (history ++ acts) = acts.foldl (fun failed act =>
      match act with
      | .encrypted j _ => if j = i then false else failed
      | .encryptionFailed j => if j = i then true else failed
      | _ => failed) (encryptionFailed i history) := List.foldl_append

/-- A step of one instance. -/
theorem StandsFor.update (h : StandsFor encrypt ⟨s, history⟩ m) (acts : List RandomAESAct)
    (m' : KeyStream) (i : ℕ) (random : RandomAES) (counter : AesBlock)
    (hi : InstanceStands encrypt random (encryptionFailed i (history ++ acts)) counter (m'.cache i)
      (m'.pending i))
    (hothers : ∀ j, j ≠ i → m'.cache j = m.cache j ∧ m'.pending j = m.pending j ∧
      encryptionFailed j (history ++ acts) = encryptionFailed j history)
    (hcounter : counter = s.counter ∨ ∀ j, j ≠ i → (s.instances j).encrypting = false)
    (hissued : ∀ block ∈ m'.issued, counterValue block < counterValue counter)
    (hturn : random.encrypting = true → ∀ j, j ≠ i → (s.instances j).encrypting = false) :
    StandsFor encrypt ⟨⟨Function.update s.instances i random, counter⟩, history ++ acts⟩ m' where
  issued := hissued
  inTurn := by
    intro j k hj hk
    dsimp only at hj hk
    by_cases hji : j = i
    · subst hji
      rw [Function.update_self] at hj
      by_contra hne
      have hother := hturn hj k fun heq => hne heq.symm
      rw [Function.update_of_ne fun heq => hne heq.symm, hother] at hk
      cases hk
    · rw [Function.update_of_ne hji] at hj
      by_cases hki : k = i
      · subst hki
        rw [Function.update_self] at hk
        rw [hturn hk j hji] at hj
        cases hj
      · rw [Function.update_of_ne hki] at hk
        exact h.inTurn j k hj hk
  each := by
    intro j
    dsimp only
    by_cases hji : j = i
    · subst hji
      rw [Function.update_self]
      exact hi
    · obtain ⟨hcache, hpending, hfailed⟩ := hothers j hji
      have hj := h.each j
      rw [Function.update_of_ne hji, hcache, hpending, hfailed]
      rcases hcounter with rfl | hidle
      · exact hj
      · exact
          { pending := hj.pending
            idle := hj.idle
            busy := hj.busy
            pos := hj.pos
            served := hj.served
            encrypting := fun hencrypting => by
              rw [hidle j hji] at hencrypting
              cases hencrypting
            good := hj.good
            poisoned := hj.poisoned }

/-- Nothing changes for the others when one instance gets other bytes or another request. -/
theorem others_update {i j : ℕ} (hj : j ≠ i) (m : KeyStream) (bytes : List KeyByte)
    (pending : Option UInt16) :
    Function.update m.cache i bytes j = m.cache j ∧
      Function.update m.pending i pending j = m.pending j :=
  ⟨Function.update_of_ne hj _ _, Function.update_of_ne hj _ _⟩

theorem init_spec (h : StandsFor encrypt ⟨s, history⟩ m) (i : ℕ) (seedIsNull : Bool)
    (hmeets : Meets ⟨s, history⟩ (.init i seedIsNull)) :
    StandsFor encrypt ⟨s.init i seedIsNull, history⟩ m := by
  rw [init]
  split_ifs with hnull hinit
  · exact h
  · exact h
  · have hzero := hmeets (Bool.eq_false_of_not_eq_true hnull) (Bool.eq_false_of_not_eq_true hinit)
    have hi := h.each i
    have hupdate := h.update [] m i { s.instances i with initialized := true } s.counter
      (by
        rw [List.append_nil]
        exact ⟨hi.pending, hi.idle, hi.busy, hi.pos, hi.served, hi.encrypting, hi.good,
          hi.poisoned⟩)
      (fun j _ => ⟨rfl, rfl, by rw [List.append_nil]⟩) (Or.inl rfl) h.issued
      (fun hencrypting j hj => by
        by_contra hother
        exact hj (h.inTurn j i (Bool.eq_true_of_not_eq_false hother) hencrypting))
    rw [List.append_nil] at hupdate
    change s.counter = _ at hzero
    rw [hzero] at hupdate
    exact hupdate

theorem generateRandom_spec (h : StandsFor encrypt ⟨s, history⟩ m) (i : ℕ)
    (buffer : Option (ℕ → UInt8)) (length : UInt16)
    (hmeets : Meets ⟨s, history⟩ (.generateRandom i buffer length)) :
    let r := s.step encrypt (.generateRandom i buffer length)
    ∃ m', SpecRun (KeyStream.Step encrypt) m r.2 m' ∧
      StandsFor encrypt ⟨r.1, history ++ r.2⟩ m' := by
  have hi := h.each i
  -- A refused request leaves everything as it is.
  have hrefused : ∀ error ≠ SUCCESS, (s.instances i).generateRandom buffer length =
      (error, s.instances i) → ∃ m', SpecRun (KeyStream.Step encrypt) m
        (s.step encrypt (.generateRandom i buffer length)).2 m' ∧ StandsFor encrypt
          ⟨(s.step encrypt (.generateRandom i buffer length)).1, history ++
            (s.step encrypt (.generateRandom i buffer length)).2⟩ m' := by
    intro error herror hsame
    have hstep : s.step encrypt (.generateRandom i buffer length) = (s, []) := by
      simp only [step, hsame, if_neg herror, setInstance, Function.update_eq_self]
    rw [hstep, List.append_nil]
    exact ⟨m, .nil m, h⟩
  intro r
  by_cases hinit : (s.instances i).initialized = false
  · exact hrefused EOFF (by decide) (if_pos hinit)
  by_cases hbusy : (s.instances i).busy = true
  · refine hrefused EBUSY (by decide) ?_
    simp only [RandomAES.generateRandom, if_neg hinit, if_pos hbusy]
  cases hbuffer : buffer with
  | none =>
    rw [hbuffer] at hrefused
    simp only [r, hbuffer]
    refine hrefused EINVAL (by decide) ?_
    rw [RandomAES.generateRandom, if_neg hinit, if_neg hbusy]
  | some memory =>
    have hidle := Bool.eq_false_of_not_eq_true hbusy
    obtain ⟨hserved, hfailed⟩ := hmeets (Bool.eq_true_of_not_eq_false hinit) hidle
      (by rw [hbuffer]; rfl)
    have hpending := hi.pending
    rw [hidle, if_neg Bool.false_ne_true] at hpending
    have hstep : s.step encrypt (.generateRandom i (some memory) length) =
        (s.setInstance i { s.instances i with
          buffer := memory
          length := length
          lengthLeft := length
          busy := true
          generateNextBlockTaskPosted := true }, [.accepted i length]) := by
      simp only [step, RandomAES.generateRandom, if_neg hinit, if_neg hbusy, if_pos]
    simp only [r, hbuffer]
    rw [hstep]
    refine ⟨_, .single (.accepted m length hpending), ?_⟩
    refine h.update [.accepted i length] _ i _ s.counter ?_ (fun j hj => ⟨rfl, ?_, ?_⟩)
      (Or.inl rfl) h.issued (fun hencrypting => ?_)
    · rw [encryptionFailed_append]
      have hnot := (hi.idle hidle).2
      exact
        { pending := Function.update_self i _ _
          idle := fun hnot => by cases hnot
          busy := fun _ => ⟨rfl, by rw [hnot]; rfl⟩
          pos := hi.pos
          served := fun _ => ⟨hserved, hfailed⟩
          encrypting := fun hencrypting => by
            change (s.instances i).encrypting = true at hencrypting
            rw [hnot] at hencrypting
            cases hencrypting
          good := hi.good
          poisoned := hi.poisoned }
    · exact Function.update_of_ne hj _ _
    · rw [encryptionFailed_append]
      rfl
    · change (s.instances i).encrypting = true at hencrypting
      rw [(hi.idle hidle).2] at hencrypting
      cases hencrypting

/-- The request of an instance whose task is posted. -/
structure Posted (encrypt : AesBlock → AesBlock) (random : RandomAES) (failed : Bool)
    (pending : Option UInt16) : Prop where
  busy : random.busy = true
  left : random.lengthLeft = random.length
  encrypting : random.encrypting = false
  served : Served random random.length
  failed : failed = true → random.length = 0
  pending : pending = some random.length

theorem InstanceStands.posted {failed : Bool} {counter : AesBlock} {cache : List KeyByte}
    {pending : Option UInt16} (hi : InstanceStands encrypt random failed counter cache pending)
    (hposted : random.generateNextBlockTaskPosted = true) :
    Posted encrypt random failed pending := by
  have hbusy : random.busy = true := by
    by_contra hidle
    have hnot := (hi.idle (Bool.eq_false_of_not_eq_true hidle)).1
    rw [hposted] at hnot
    cases hnot
  obtain ⟨hleft, htask⟩ := hi.busy hbusy
  obtain ⟨hserved, hfailed⟩ := hi.served hposted
  have hpending := hi.pending
  rw [hbusy, if_pos rfl] at hpending
  rw [hposted, eq_comm, Bool.not_eq_true'] at htask
  exact ⟨hbusy, hleft, htask, hserved, hfailed, hpending⟩

/-- Nothing is left of a cache whose bytes were all taken. -/
theorem InstanceStands.cache_eq_nil {failed : Bool} {counter : AesBlock} {cache : List KeyByte}
    {pending : Option UInt16} (hi : InstanceStands encrypt random failed counter cache pending)
    (hencrypting : random.encrypting = false)
    (hpos : random.cachePos.toNat = AES128_BLOCK_SIZE_BYTES) : cache = [] := by
  cases hfailed : failed with
  | true => exact hi.poisoned hfailed
  | false =>
    have hgood := hi.good hfailed hencrypting
    rw [List.drop_of_length_le (by rw [random.cache.2, hpos])] at hgood
    exact List.map_eq_nil_iff.mp hgood

/-- An instance serves a request from its cache, or has a block encrypted, or ends the request
because the cipher does not take the block. -/
theorem generateNextBlockTask_spec (h : StandsFor encrypt ⟨s, history⟩ m) (i : ℕ) (answer : ErrorT)
    (hmeets : Meets ⟨s, history⟩ (.generateNextBlockTask i answer)) :
    let r := s.step encrypt (.generateNextBlockTask i answer)
    ∃ m', SpecRun (KeyStream.Step encrypt) m r.2 m' ∧
      StandsFor encrypt ⟨r.1, history ++ r.2⟩ m' := by
  intro r
  simp only [r, step]
  split_ifs with hposted
  · have hi := h.each i
    have htask := hi.posted hposted
    by_cases hle : (s.instances i).length.toNat ≤
        AES128_BLOCK_SIZE_BYTES - (s.instances i).cachePos.toNat
    · obtain ⟨bytes, rest, hcache, hlength, hacts, hnot, hstands⟩ :=
        serve encrypt { s.instances i with generateNextBlockTaskPosted := false }
          (encryptionFailed i history) (m.cache i) i s.counter s.counter answer hi.pos hle
          htask.left rfl htask.encrypting
          (fun hgood => hi.good hgood htask.encrypting)
          (fun hbad => ⟨hi.poisoned hbad, htask.failed hbad⟩)
      rw [hacts]
      refine ⟨_, .single (.done m htask.pending hcache hlength), ?_⟩
      refine h.update _ _ i _ s.counter ?_ (fun j hj => ⟨?_, ?_, ?_⟩) (Or.inl rfl) h.issued
        (fun hencrypting => ?_)
      · rw [encryptionFailed_append]
        dsimp only
        rw [Function.update_self, Function.update_self]
        exact hstands
      · exact (others_update hj m _ none).1
      · exact (others_update hj m [] none).2
      · rw [encryptionFailed_append]
        rfl
      · rw [hnot] at hencrypting
        cases hencrypting
    · obtain ⟨hpos, hblock⟩ := htask.served.resolve_left hle
      have hlength : (s.instances i).lengthLeft ≠ 0 := fun hzero => by
        rw [htask.left] at hzero
        rw [hzero] at hle
        exact hle (Nat.zero_le _)
      have hnil := hi.cache_eq_nil htask.encrypting hpos
      have hgood : encryptionFailed i history = false := by
        by_contra hbad
        have hzero := htask.failed (Bool.eq_true_of_not_eq_false hbad)
        rw [htask.left] at hlength
        exact hlength hzero
      rw [generateNextBlock_of_empty { s.instances i with generateNextBlockTaskPosted := false } i
        s.counter answer hpos hlength]
      by_cases hanswer : answer = SUCCESS
      · subst hanswer
        rw [if_neg (not_not.mpr rfl), List.append_nil]
        refine ⟨m, .nil m, ?_⟩
        have hturn := hmeets hposted (Nat.not_le.mp hle) rfl
        have hupdate := h.update [] m i { s.instances i with
          generateNextBlockTaskPosted := false
          cache := s.counter
          encrypting := true } s.counter ?_
          (fun j _ => ⟨rfl, rfl, by rw [List.append_nil]⟩) (Or.inl rfl) h.issued
          (fun _ j _ => hturn j)
        · rw [List.append_nil] at hupdate
          exact hupdate
        · rw [List.append_nil]
          exact
            { pending := hi.pending
              idle := fun hidle => by
                change (s.instances i).busy = false at hidle
                rw [htask.busy] at hidle
                cases hidle
              busy := fun _ => ⟨htask.left, rfl⟩
              pos := hi.pos
              served := fun hserved => by cases hserved
              encrypting := fun _ => ⟨hgood, rfl, hnil, hpos, hblock⟩
              good := fun _ hnot => by cases hnot
              poisoned := hi.poisoned }
      · rw [if_pos hanswer, RandomAES.finishGenerating]
        have hsome : (m.pending i).isSome := by
          rw [htask.pending]
          rfl
        refine ⟨_, .single (.failed m hsome hanswer), ?_⟩
        refine h.update _ _ i _ s.counter ?_ (fun j hj => ⟨rfl, ?_, ?_⟩) (Or.inl rfl) h.issued
          (fun hencrypting => ?_)
        · rw [encryptionFailed_append]
          exact
            { pending := Function.update_self i _ _
              idle := fun _ => ⟨rfl, htask.encrypting⟩
              busy := fun hbusy => by cases hbusy
              pos := hi.pos
              served := fun hserved => by cases hserved
              encrypting := fun hencrypting => by
                change (s.instances i).encrypting = true at hencrypting
                rw [htask.encrypting] at hencrypting
                cases hencrypting
              good := fun _ _ => by
                change (m.cache i).map _ = s.counter.1.drop (s.instances i).cachePos.toNat
                rw [hnil, hpos, List.drop_of_length_le s.counter.2.le, List.map_nil]
              poisoned := hi.poisoned }
        · exact (others_update hj m [] none).2
        · rw [encryptionFailed_append]
          rfl
        · change (s.instances i).encrypting = true at hencrypting
          rw [htask.encrypting] at hencrypting
          cases hencrypting
  · rw [List.append_nil]
    exact ⟨m, .nil m, h⟩

/-- The request of an instance that has a block encrypted. -/
theorem InstanceStands.busy_of_encrypting {failed : Bool} {counter : AesBlock}
    {cache : List KeyByte} {pending : Option UInt16}
    (hi : InstanceStands encrypt random failed counter cache pending)
    (hencrypting : random.encrypting = true) :
    random.busy = true ∧ random.lengthLeft = random.length ∧
      random.generateNextBlockTaskPosted = false ∧ pending = some random.length := by
  have hbusy : random.busy = true := by
    by_contra hidle
    have hnot := (hi.idle (Bool.eq_false_of_not_eq_true hidle)).2
    rw [hencrypting] at hnot
    cases hnot
  obtain ⟨hleft, htask⟩ := hi.busy hbusy
  have hpending := hi.pending
  rw [hbusy, if_pos rfl] at hpending
  rw [hencrypting] at htask
  exact ⟨hbusy, hleft, htask, hpending⟩

/-- An encryption that succeeds serves the request, and one that fails ends it. -/
theorem cryptMessageDone_spec (h : StandsFor encrypt ⟨s, history⟩ m) (i : ℕ) (error : ErrorT)
    (data : AesBlock) (answer : ErrorT)
    (hmeets : Meets ⟨s, history⟩ (.cryptMessageDone i error data answer)) :
    let r := s.step encrypt (.cryptMessageDone i error data answer)
    ∃ m', SpecRun (KeyStream.Step encrypt) m r.2 m' ∧
      StandsFor encrypt ⟨r.1, history ++ r.2⟩ m' := by
  intro r
  simp only [r, step]
  split_ifs with hencrypting
  · have hi := h.each i
    obtain ⟨hgood, hblock, hnil, hpos, hlength⟩ := hi.encrypting hencrypting
    obtain ⟨hbusy, hleft, hposted, hpending⟩ := hi.busy_of_encrypting hencrypting
    have hvalue := counterValue_increment (hmeets hencrypting)
    have hsome : (m.pending i).isSome := by
      rw [hpending]
      rfl
    have hothers : ∀ j, j ≠ i → (s.instances j).encrypting = false := fun j hj =>
      Bool.eq_false_of_not_eq_true fun hother => hj (h.inTurn j i hother hencrypting)
    have hfresh : (s.instances i).cache ∉ m.issued := fun hmem => by
      have hlt := h.issued _ hmem
      change (s.instances i).cache = s.counter at hblock
      rw [hblock] at hlt
      exact Nat.lt_irrefl _ hlt
    rw [cryptMessageDone]
    by_cases herror : error = SUCCESS
    · subst herror
      simp only [if_pos]
      obtain ⟨bytes, rest, hcache, hcount, hacts, hnot, hstands⟩ :=
        serve encrypt
          { s.instances i with
            encrypting := false
            cache := encrypt (s.instances i).cache
            cachePos := 0 }
          false (keyBytes (s.instances i).cache) i
          (SharedCounter.increment s.counter).2 (SharedCounter.increment s.counter).2 answer
          (Nat.zero_le _) hlength hleft hposted rfl
          (fun _ => map_value_keyBytes encrypt (s.instances i).cache) (fun hbad => by cases hbad)
      rw [hacts]
      refine ⟨_, .cons (.encrypted m hsome hnil hfresh) (.single (.done _ hpending
        ((Function.update_self i _ _).trans hcache) hcount)), ?_⟩
      refine h.update _ _ i _ (SharedCounter.increment s.counter).2 ?_ (fun j hj => ⟨?_, ?_, ?_⟩)
        (Or.inr hothers) (fun block hmem => ?_) (fun hagain => ?_)
      · rw [encryptionFailed_append]
        simp only [List.foldl_cons, List.foldl_nil, if_true, Function.update_self]
        exact hstands
      · exact ((others_update hj _ _ none).1).trans (others_update hj m _ none).1
      · exact (others_update hj m [] none).2
      · rw [encryptionFailed_append]
        simp only [List.foldl_cons, List.foldl_nil, if_neg hj.symm]
      · rcases List.mem_cons.mp hmem with rfl | hold
        · rw [hvalue, hblock]
          exact Nat.lt_succ_self _
        · rw [hvalue]
          exact (h.issued block hold).trans (Nat.lt_succ_self _)
      · rw [hnot] at hagain
        cases hagain
    · simp only [if_neg herror, RandomAES.finishGenerating]
      refine ⟨_, .cons (.encryptionFailed m hsome) (.single (.failed m hsome herror)), ?_⟩
      refine h.update _ _ i _ (SharedCounter.increment s.counter).2 ?_ (fun j hj => ⟨rfl, ?_, ?_⟩)
        (Or.inr hothers) (fun block hmem => ?_) (fun hagain => ?_)
      · rw [encryptionFailed_append]
        simp only [List.foldl_cons, List.foldl_nil, if_true]
        exact
          { pending := Function.update_self i _ _
            idle := fun _ => ⟨hposted, rfl⟩
            busy := fun hbusy => by cases hbusy
            pos := Nat.zero_le _
            served := fun hserved => by
              change (s.instances i).generateNextBlockTaskPosted = true at hserved
              change (s.instances i).generateNextBlockTaskPosted = false at hposted
              rw [hposted] at hserved
              cases hserved
            encrypting := fun hagain => by cases hagain
            good := fun hbad => by cases hbad
            poisoned := fun _ => hnil }
      · exact (others_update hj m [] none).2
      · rw [encryptionFailed_append]
        simp only [List.foldl_cons, List.foldl_nil, if_neg hj.symm]
      · rw [hvalue]
        exact (h.issued block hmem).trans (Nat.lt_succ_self _)
      · cases hagain
  · rw [List.append_nil]
    exact ⟨m, .nil m, h⟩

/-- Every step that meets the condition keeps to the key stream. -/
theorem step_spec (encrypt : AesBlock → AesBlock) (w : Watched RandomAESSystem RandomAESAct)
    (m : KeyStream) (event : RandomAESEvent) (hmeets : Meets w event)
    (h : StandsFor encrypt w m) :
    ∃ m', SpecRun (KeyStream.Step encrypt) m (watch (step encrypt) w event).2 m' ∧
      StandsFor encrypt (watch (step encrypt) w event).1 m' := by
  obtain ⟨s, history⟩ := w
  cases event with
  | init i seedIsNull =>
    refine ⟨m, .nil m, ?_⟩
    rw [watch]
    simp only [step, List.append_nil]
    exact init_spec h i seedIsNull hmeets
  | generateRandom i buffer length => exact generateRandom_spec h i buffer length hmeets
  | generateNextBlockTask i answer => exact generateNextBlockTask_spec h i answer hmeets
  | cryptMessageDone i error data answer => exact cryptMessageDone_spec h i error data answer hmeets

/-! ## Progress -/

/-- The events that bring the request of an instance further. -/
def awaited (i : ℕ) (s : RandomAESSystem) : RandomAESEvent → Bool
  | .generateNextBlockTask j _ => j == i && (s.instances i).generateNextBlockTaskPosted
  | .cryptMessageDone j _ _ _ => j == i && (s.instances i).encrypting
  | .init _ _ | .generateRandom _ _ _ => false

/-- How many of them may come before the last one. -/
def left (i : ℕ) (s : RandomAESSystem) : ℕ := if (s.instances i).encrypting then 0 else 1

/-- An instance has a request, which it serves from its cache or for which it has a block
encrypted. -/
structure Working (random : RandomAES) : Prop where
  busy : random.busy = true
  left : random.lengthLeft = random.length
  pos : random.cachePos.toNat ≤ AES128_BLOCK_SIZE_BYTES
  phase : random.generateNextBlockTaskPosted = !random.encrypting
  posted : random.encrypting = false → Served random random.length
  encrypting : random.encrypting = true → random.length.toNat ≤ AES128_BLOCK_SIZE_BYTES

theorem InstanceStands.working {failed : Bool} {counter : AesBlock} {cache : List KeyByte}
    {pending : Option UInt16} (hi : InstanceStands encrypt random failed counter cache pending)
    (hpending : pending.isSome) : Working random := by
  have hbusy : random.busy = true := by
    have heq := hi.pending
    by_contra hidle
    rw [if_neg hidle] at heq
    rw [heq] at hpending
    cases hpending
  obtain ⟨hleft, htask⟩ := hi.busy hbusy
  refine ⟨hbusy, hleft, hi.pos, htask, fun hnot => (hi.served ?_).1,
    fun h => (hi.encrypting h).2.2.2.2⟩
  rw [htask, hnot]
  rfl

theorem instances_setInstance_of_ne {i j : ℕ} (hj : i ≠ j) (s : RandomAESSystem)
    (random : RandomAES) : (s.setInstance j random).instances i = s.instances i :=
  Function.update_of_ne hj _ _

theorem instances_setInstance (s : RandomAESSystem) (i : ℕ) (random : RandomAES) :
    (s.setInstance i random).instances i = random := Function.update_self i _ _

/-- A request that is served ends. -/
theorem generateRandomDone_mem (random : RandomAES)
    (hpos : random.cachePos.toNat ≤ AES128_BLOCK_SIZE_BYTES)
    (hleft : random.lengthLeft = random.length) (i : ℕ) (counter : AesBlock) (answer : ErrorT)
    (hserved : Served random random.length) :
    (∃ act ∈ (random.generateNextBlock i counter answer).2, ∃ error bytes,
        act = .generateRandomDone i error bytes) ∨
      random.length.toNat ≤ AES128_BLOCK_SIZE_BYTES ∧
        random.generateNextBlock i counter answer =
          ({ random with cache := counter, encrypting := true }, []) := by
  by_cases hle : random.length.toNat ≤ AES128_BLOCK_SIZE_BYTES - random.cachePos.toNat
  · rw [generateNextBlock_of_le i counter answer hpos hle hleft]
    exact Or.inl ⟨_, List.mem_singleton_self _, _, _, rfl⟩
  · obtain ⟨hempty, hblock⟩ := hserved.resolve_left hle
    have hne : random.lengthLeft ≠ 0 := fun hzero => by
      rw [hleft] at hzero
      rw [hzero] at hle
      exact hle (Nat.zero_le _)
    rw [generateNextBlock_of_empty random i counter answer hempty hne]
    by_cases hanswer : answer = SUCCESS
    · rw [if_neg (not_not.mpr hanswer)]
      exact Or.inr ⟨hblock, rfl⟩
    · rw [if_pos hanswer, RandomAES.finishGenerating]
      exact Or.inl ⟨_, List.mem_singleton_self _, _, _, rfl⟩

theorem step_progress (encrypt : AesBlock → AesBlock) (i : ℕ) (s : RandomAESSystem)
    (event : RandomAESEvent) (h : Working (s.instances i)) :
    (∃ act ∈ (s.step encrypt event).2, ∃ error bytes, act = .generateRandomDone i error bytes) ∨
      Working ((s.step encrypt event).1.instances i) ∧
        left i (s.step encrypt event).1 + (if awaited i s event then 1 else 0) ≤ left i s := by
  -- Where the instance does not move, the request stays as it is.
  have hsame : awaited i s event = false →
      (s.step encrypt event).1.instances i = s.instances i →
        Working ((s.step encrypt event).1.instances i) ∧
          left i (s.step encrypt event).1 + (if awaited i s event then 1 else 0) ≤ left i s := by
    intro hnot hinstance
    rw [left, hinstance, hnot]
    exact ⟨h, le_rfl⟩
  cases event with
  | init j seedIsNull =>
    simp only [step, init, awaited, Bool.false_eq_true, if_false, Nat.add_zero]
    by_cases hj : i = j
    · subst hj
      refine Or.inr ?_
      split_ifs
      · exact ⟨h, le_rfl⟩
      · exact ⟨h, le_rfl⟩
      · simp only [left, instances_setInstance]
        exact ⟨⟨h.busy, h.left, h.pos, h.phase, h.posted, h.encrypting⟩, le_rfl⟩
    · refine Or.inr (hsame rfl ?_)
      rw [step, init]
      split_ifs
      · rfl
      · rfl
      · exact instances_setInstance_of_ne hj s _
  | generateRandom j buffer length =>
    refine Or.inr (hsame rfl ?_)
    simp only [step]
    by_cases hj : i = j
    · subst hj
      rw [instances_setInstance]
      simp only [RandomAES.generateRandom, h.busy, if_true]
      split_ifs <;> rfl
    · exact instances_setInstance_of_ne hj s _
  | generateNextBlockTask j answer =>
    by_cases hj : i = j
    · subst hj
      by_cases hposted : (s.instances i).generateNextBlockTaskPosted = true
      · have hnot : (s.instances i).encrypting = false := by
          have hphase := h.phase
          rw [hposted, eq_comm, Bool.not_eq_true'] at hphase
          exact hphase
        have hleft : left i s = 1 := by
          rw [left, hnot]
          rfl
        have hawaited : awaited i s (.generateNextBlockTask i answer) = true := by
          rw [awaited, hposted, beq_self_eq_true, Bool.and_self]
        rw [step, if_pos hposted, hleft, hawaited]
        rcases generateRandomDone_mem { s.instances i with generateNextBlockTaskPosted := false }
          h.pos h.left i s.counter answer (h.posted hnot) with hdone | ⟨hblock, hnext⟩
        · exact Or.inl hdone
        · dsimp only
          rw [hnext, left, instances_setInstance]
          exact Or.inr ⟨⟨h.busy, h.left, h.pos, rfl, (fun hbad => by cases hbad),
            fun _ => hblock⟩, le_rfl⟩
      · refine Or.inr (hsame ?_ ?_)
        · rw [awaited, Bool.eq_false_of_not_eq_true hposted, Bool.and_false]
        · rw [step, if_neg hposted]
    · refine Or.inr (hsame ?_ ?_)
      · rw [awaited, beq_eq_false_iff_ne.mpr (Ne.symm hj), Bool.false_and]
      · rw [step]
        split_ifs
        · exact instances_setInstance_of_ne hj s _
        · rfl
  | cryptMessageDone j error data answer =>
    by_cases hj : i = j
    · subst hj
      by_cases hencrypting : (s.instances i).encrypting = true
      · refine Or.inl ?_
        rw [step, if_pos hencrypting, cryptMessageDone]
        dsimp only
        by_cases herror : error = SUCCESS
        · rw [if_pos herror, if_pos herror, if_pos herror]
          rw [@generateNextBlock_of_le { s.instances i with
            encrypting := false, cache := encrypt (s.instances i).cache, cachePos := 0 } i _ answer
            (Nat.zero_le _) (h.encrypting hencrypting) h.left]
          exact ⟨_, List.mem_cons_of_mem _ (List.mem_singleton_self _), _, _, rfl⟩
        · rw [if_neg herror, if_neg herror, if_neg herror, RandomAES.finishGenerating]
          exact ⟨_, List.mem_cons_of_mem _ (List.mem_singleton_self _), _, _, rfl⟩
      · refine Or.inr (hsame ?_ ?_)
        · rw [awaited, Bool.eq_false_of_not_eq_true hencrypting, Bool.and_false]
        · rw [step, if_neg hencrypting]
    · refine Or.inr (hsame ?_ ?_)
      · rw [awaited, beq_eq_false_iff_ne.mpr (Ne.symm hj), Bool.false_and]
      · rw [step]
        split_ifs
        · exact instances_setInstance_of_ne hj s _
        · rfl

/-- While a request is pending, something is awaited. -/
theorem exists_awaited (i : ℕ) (s : RandomAESSystem) (h : Working (s.instances i)) :
    ∃ event, awaited i s event = true := by
  have hphase := h.phase
  cases hencrypting : (s.instances i).encrypting with
  | true =>
    refine ⟨.cryptMessageDone i SUCCESS SharedCounter.zero SUCCESS, ?_⟩
    rw [awaited, hencrypting, beq_self_eq_true, Bool.and_self]
  | false =>
    refine ⟨.generateNextBlockTask i SUCCESS, ?_⟩
    rw [awaited, hphase, hencrypting, beq_self_eq_true, Bool.not_false, Bool.and_self]

/-- Every run whose steps meet the condition keeps to the key stream and hands out no byte of it
twice, and every request that was accepted is finished. -/
theorem randomAES_keyStream (encrypt : AesBlock → AesBlock) (events : List RandomAESEvent)
    (hmeets : RunMeets (watch (step encrypt)) Meets ⟨boot, []⟩ events) :
    let r := run (watch (step encrypt)) ⟨boot, []⟩ events
    ∃ m, SpecRun (KeyStream.Step encrypt) .empty r.2 m ∧ m.handed.Nodup ∧
      ∀ i, (m.pending i).isSome →
        (∃ event, awaited i r.1.state event = true) ∧ ∀ later,
          left i r.1.state < awaitedSteps (step encrypt) (awaited i) r.1.state later →
            ∃ act ∈ (run (step encrypt) r.1.state later).2, ∃ error bytes,
              act = .generateRandomDone i error bytes := by
  intro r
  obtain ⟨m, hrun, h⟩ : ∃ m, SpecRun (KeyStream.Step encrypt) .empty r.2 m ∧
      StandsFor encrypt r.1 m :=
    run_simulates_of_runMeets (step_spec encrypt) (standsFor_boot encrypt) hmeets
  refine ⟨m, hrun, KeyStream.nodup_of_specRun hrun KeyStream.distinct_empty, fun i hpending => ?_⟩
  have hworking : Working (r.1.state.instances i) := (h.each i).working hpending
  refine ⟨exists_awaited i r.1.state hworking, fun later hmany => ?_⟩
  have hstep : ∀ s event, (fun s : RandomAESSystem => Working (s.instances i)) s → _ :=
    fun s event h => step_progress encrypt i s event h
  exact exists_done_of_awaitedSteps hstep hworking hmany

/-- One request of 16 bytes: each condition holds in every step. -/
theorem randomAES_keyStream_block :
    let events : List RandomAESEvent := [.init 0 false,
      .generateRandom 0 (some fun _ => 0) 16, .generateNextBlockTask 0 SUCCESS,
      .cryptMessageDone 0 SUCCESS SharedCounter.zero SUCCESS]
    RunMeets (watch (step id)) Meets ⟨boot, []⟩ events ∧
      ∃ m, SpecRun (KeyStream.Step id) .empty (run (watch (step id)) ⟨boot, []⟩ events).2 m ∧
        m.handed.Nodup := by
  intro events
  have hmeets : RunMeets (watch (step id)) Meets ⟨boot, []⟩ events := by
    refine ⟨fun _ _ => rfl, fun _ _ _ => ⟨Or.inr ⟨rfl, by decide⟩, fun h => by cases h⟩, ?_,
      fun _ => by decide, trivial⟩
    intro hposted hmore hanswer j
    cases j <;> rfl
  refine ⟨hmeets, ?_⟩
  obtain ⟨m, hrun, hnodup, -⟩ := randomAES_keyStream id events hmeets
  exact ⟨m, hrun, hnodup⟩

/-- A request for two blocks is finished with success, but its second half is not filled. -/
theorem randomAES_not_keyStream :
    (run (step id) boot [.init 0 false, .generateRandom 0 (some fun _ => 0xee) 32,
      .generateNextBlockTask 0 SUCCESS, .cryptMessageDone 0 SUCCESS SharedCounter.zero SUCCESS,
      .cryptMessageDone 0 SUCCESS SharedCounter.zero SUCCESS]).2 =
      [.accepted 0 32, .encrypted 0 SharedCounter.zero,
        .encrypted 0 (SharedCounter.increment SharedCounter.zero).2,
        .generateRandomDone 0 SUCCESS
          (List.replicate 15 0 ++ [1] ++ List.replicate 16 0xee)] := by
  decide

end RandomAESSystem

end Whip6
