import LinkLayer.Ether

/-!
# The packet traits over Ethernet frames

`ether.rs` implements the generic packet traits for the Ethernet wrappers: `PacketSize`, the
`Iterator` of `EthernetIterable`, and the default `MutablePacket::clone_from`.

`EthernetIterable` walks a byte slice: `next` wraps the whole rest of the slice with
`EthernetPacket::new` and advances by `min(ret.packet_size(), buf.len())`.  The generated
`packet_size` of an `EthernetPacket` is always `14`, the header alone, whatever the payload.
So the iterator does not split a slice into frames: from a slice of `n` bytes it yields the
`n / 14` suffixes that start at multiples of `14`, each overlapping the next, and stops at the
first remainder shorter than a header.

`clone_from` asserts that the other packet fits and copies its bytes over the front of the
buffer; it never shortens the buffer, so the bytes past the copy stay.

* `EthernetIterable.next_of_lt`, `EthernetIterable.next_of_le` — the two outcomes of one step;
* `EthernetIterable.collect_packets` — the closed form of a whole run;
* `MutableEthernetPacket.cloneFrom_fromPacket` — what `from_packet` reads after `clone_from`.
-/

namespace LinkLayer.Ether

/-- `PacketSize for EthernetPacket`: the generated size is the header's, `14`. -/
def EthernetPacket.packetSize (_p : EthernetPacket) : Nat := 14

/-- `EthernetIterable`: the part of the slice not yet walked. -/
structure EthernetIterable where
  buf : List UInt8

namespace EthernetIterable

/-- `Iterator::next` for `EthernetIterable`. -/
def next (it : EthernetIterable) : Option EthernetPacket × EthernetIterable :=
  if it.buf.length > 0 then
    match EthernetPacket.new it.buf with
    | some ret => (some ret, ⟨it.buf.drop (min ret.packetSize it.buf.length)⟩)
    | none => (none, it)
  else (none, it)

/-- Below a header's length the iterator is done, and stays where it is. -/
theorem next_of_lt {it : EthernetIterable} (h : it.buf.length < 14) : it.next = (none, it) := by
  unfold next EthernetPacket.new
  split
  · rw [dif_neg (by simp only [minimumPacketSize]; omega)]
  · rfl

/-- From a header's length on, the iterator wraps the whole rest and advances by `14`. -/
theorem next_of_le {it : EthernetIterable} (h : 14 ≤ it.buf.length) :
    it.next = (some ⟨it.buf, h⟩, ⟨it.buf.drop 14⟩) := by
  unfold next EthernetPacket.new
  rw [if_pos (by omega), dif_pos (show minimumPacketSize ≤ it.buf.length from h)]
  simp only [EthernetPacket.packetSize, Nat.min_eq_left h]

theorem next_some_length {it rest : EthernetIterable} {ret : EthernetPacket}
    (h : it.next = (some ret, rest)) : rest.buf.length < it.buf.length := by
  by_cases hl : 14 ≤ it.buf.length
  · rw [next_of_le hl, Prod.mk.injEq] at h
    rw [← h.2, List.length_drop]
    omega
  · rw [next_of_lt (by omega)] at h
    simp at h

/-- `it.collect::<Vec<_>>()`: the packets of a whole run. -/
def collect (it : EthernetIterable) : List EthernetPacket :=
  match h : it.next with
  | (some ret, rest) =>
    have : rest.buf.length < it.buf.length := next_some_length h
    ret :: rest.collect
  | (none, _) => []
termination_by it.buf.length

theorem collect_of_lt {it : EthernetIterable} (h : it.buf.length < 14) : it.collect = [] := by
  rw [collect]
  split
  · next heq => rw [next_of_lt h] at heq; cases heq
  · rfl

theorem collect_of_le {it : EthernetIterable} (h : 14 ≤ it.buf.length) :
    it.collect = ⟨it.buf, h⟩ :: (EthernetIterable.mk (it.buf.drop 14)).collect := by
  rw [collect]
  split
  · next heq =>
    rw [next_of_le h, Prod.mk.injEq, Option.some.injEq] at heq
    obtain ⟨rfl, rfl⟩ := heq
    rfl
  · next heq => rw [next_of_le h] at heq; cases heq

/-- **A run yields the suffixes at multiples of `14`.**  From a slice of `n` bytes the iterator
yields exactly `n / 14` packets, the `k`-th holding the slice from byte `14 * k` to its end. -/
theorem collect_packets (buf : List UInt8) :
    (EthernetIterable.mk buf).collect.map (·.packet) =
      (List.range (buf.length / 14)).map fun k => buf.drop (14 * k) := by
  by_cases hl : 14 ≤ buf.length
  · obtain ⟨m, hm⟩ : ∃ m, buf.length / 14 = m + 1 := ⟨buf.length / 14 - 1, by omega⟩
    have hm' : (buf.drop 14).length / 14 = m := by rw [List.length_drop]; omega
    rw [collect_of_le hl, List.map_cons, collect_packets (buf.drop 14), hm', hm,
      List.range_succ_eq_map]
    simp only [List.map_cons, List.map_map, Nat.mul_zero, List.drop_zero, Function.comp_def,
      List.drop_drop, Nat.mul_succ, Nat.add_comm]
  · rw [collect_of_lt (Nat.lt_of_not_le hl), Nat.div_eq_of_lt (Nat.lt_of_not_le hl)]
    rfl
termination_by buf.length
decreasing_by rw [List.length_drop]; omega

end EthernetIterable

/-! ### `clone_from` -/

/-- `MutablePacket::clone_from` on a `MutableEthernetPacket`: `assert!` that `other` fits,
then `copy_nonoverlapping` its bytes over the front of the buffer.  `other` is any `Packet`,
given by its `packet()` bytes. -/
def MutableEthernetPacket.cloneFrom (p : MutableEthernetPacket) (other : List UInt8) :
    Option MutableEthernetPacket :=
  if h : other.length ≤ p.packet.length then
    some ⟨overwrite p.packet 0 other, by rw [length_overwrite (by omega)]; exact p.minimum⟩
  else none

theorem MutableEthernetPacket.cloneFrom_packet {p : MutableEthernetPacket} {other : List UInt8}
    (h : other.length ≤ p.packet.length) :
    ∃ q, p.cloneFrom other = some q ∧ q.packet = other ++ p.packet.drop other.length :=
  ⟨_, dif_pos h, overwrite_zero⟩

/-- **`clone_from` copies a frame over the front of the buffer, and keeps the rest.**  It
panics exactly when the other packet is the longer one.  Otherwise `from_packet` reads the
other frame's header back, and as payload the other frame's payload followed by the bytes of
the buffer past the copy. -/
theorem MutableEthernetPacket.cloneFrom_fromPacket (p : MutableEthernetPacket)
    (other : EthernetPacket) :
    (p.cloneFrom other.packet).map (·.toImmutable.fromPacket) =
      if other.packet.length ≤ p.packet.length then
        some { other.fromPacket with
          payload := other.fromPacket.payload ++ p.packet.drop other.packet.length }
      else none := by
  split
  · next hle =>
    obtain ⟨q, hq, hpacket⟩ := cloneFrom_packet hle
    have hq' : q.toImmutable = ⟨other.fromPacket.encode ++ p.packet.drop other.packet.length,
        by rw [encode_fromPacket, ← hpacket]; exact q.minimum⟩ :=
      EthernetPacket.ext (show q.packet = other.fromPacket.encode ++ _ by
        rw [encode_fromPacket, hpacket])
    rw [hq, Option.map_some', hq', fromPacket_encode]
  · next hgt => rw [cloneFrom, dif_neg hgt]; rfl

end LinkLayer.Ether
