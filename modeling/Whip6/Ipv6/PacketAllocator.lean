import Whip6.Ipv6.Packet

/-!
# The allocator of IPv6 packets

Packets are allocated and freed by a component of the platform.  All that the protocols rely on is
which packets are out: an allocation that succeeds takes one more out, and freeing a packet gives it
back.
-/

namespace Whip6

/-- What the platform provides, over the states of the allocator. -/
structure Ipv6PacketAllocator (σ : Type) where
  /-- `whip6_ipv6AllocNewIPv6Packet`: the packet, with what stands in its header, if there is one. -/
  alloc : σ → Option (ℕ × Ipv6BasicHeader) × σ
  /-- `whip6_ipv6FreeExistingIPv6Packet` -/
  free : ℕ → σ → σ
  /-- The packets that are out. -/
  out : σ → Multiset ℕ
  out_alloc : ∀ s, out (alloc s).2 = ((alloc s).1.elim 0 fun packet => {packet.1}) + out s
  out_free : ∀ ptr s, out (free ptr s) = (out s).erase ptr

namespace Ipv6PacketAllocator

variable {σ : Type} (allocator : Ipv6PacketAllocator σ) {s : σ}

theorem out_alloc_none (h : (allocator.alloc s).1 = none) :
    allocator.out (allocator.alloc s).2 = allocator.out s := by
  rw [allocator.out_alloc, h, Option.elim_none, zero_add]

/-- A packet that is freed after it was allocated leaves the others out. -/
theorem out_free_alloc {packet : ℕ × Ipv6BasicHeader} (h : (allocator.alloc s).1 = some packet) :
    allocator.out (allocator.free packet.1 (allocator.alloc s).2) = allocator.out s := by
  rw [allocator.out_free, allocator.out_alloc, h, Option.elim_some, Multiset.singleton_add,
    Multiset.erase_cons_head]

end Ipv6PacketAllocator

/-- A pool: the packets that are in it, with their headers, and those that are out. -/
structure Ipv6PacketPool where
  packets : List (ℕ × Ipv6BasicHeader)
  out : Multiset ℕ

def Ipv6PacketPool.alloc (pool : Ipv6PacketPool) : Option (ℕ × Ipv6BasicHeader) × Ipv6PacketPool :=
  match pool.packets with
  | [] => (none, pool)
  | packet :: packets => (some packet, ⟨packets, packet.1 ::ₘ pool.out⟩)

/-- An allocator that hands out the packets of a pool. -/
def ipv6PacketPoolAllocator : Ipv6PacketAllocator Ipv6PacketPool where
  alloc := Ipv6PacketPool.alloc
  free ptr pool := ⟨(ptr, .zero) :: pool.packets, pool.out.erase ptr⟩
  out := Ipv6PacketPool.out
  out_alloc pool := by
    rcases pool with ⟨packets, out⟩
    cases packets with
    | nil => exact (zero_add out).symm
    | cons packet packets => exact (Multiset.singleton_add packet.1 out).symm
  out_free _ _ := rfl

end Whip6
