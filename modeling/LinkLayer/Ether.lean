import LinkLayer.Bytes
import Mathlib.Tactic.IntervalCases

/-!
# The Ethernet II codec: `populate` and `from_packet` are inverse

`ether.rs` holds the generated Ethernet accessors.  The immutable `EthernetPacket` reads the
destination address from bytes `0..6`, the source address from `6..12` and the ethertype,
most significant byte first, from `12..14`; the `MutableEthernetPacket` writes the same
bytes, one store per byte, and copies the payload to offset `14` with an unchecked
`copy_nonoverlapping`.  Both wrappers can only be built by `new` over a buffer of at least the
14 header bytes, and the model carries that as a field: the getters and the header setters
are then total, as in the source, and only the payload copy can go wrong.

Over the byte code we state the frame layout once, `Ethernet.encode`, and show:

* `populate_eq` — `populate e` is defined exactly when the payload fits, and then the buffer
  becomes `encode e` followed by the untouched rest of the buffer;
* `fromPacket_encode` — `from_packet` reads `e` back from `encode e ++ rest` (the payload
  picks up the trailing bytes);
* `encode_fromPacket` — every buffer of at least 14 bytes is the encoding of what
  `from_packet` makes of it;
* `populate_fromPacket_roundTrip` — the two round trips through `new`, `populate`,
  `to_immutable` and `from_packet`.

The stores are tracked by `overwrite`, one splice lemma for a single store and one for two
adjacent writes, so no proof below reasons about single indices.
-/

namespace LinkLayer.Ether

/-- `MacAddr(a, b, c, d, e, f)`: the six octets of a hardware address. -/
structure MacAddr where
  a : UInt8
  b : UInt8
  c : UInt8
  d : UInt8
  e : UInt8
  f : UInt8
  deriving DecidableEq, Repr

/-- `MacAddr::new`. -/
def MacAddr.new (a b c d e f : UInt8) : MacAddr := ⟨a, b, c, d, e, f⟩

/-- `to_primitive_values`: the octets in wire order. -/
def MacAddr.toPrimitiveValues (m : MacAddr) : List UInt8 := [m.a, m.b, m.c, m.d, m.e, m.f]

/-- `EtherType(pub u16)`. -/
structure EtherType where
  value : UInt16
  deriving DecidableEq, Repr

/-- `EtherType::new`. -/
def EtherType.new (val : UInt16) : EtherType := ⟨val⟩

/-- The `Ethernet` record that `populate` writes and `from_packet` reads. -/
structure Ethernet where
  destination : MacAddr
  source : MacAddr
  ethertype : EtherType
  payload : List UInt8
  deriving DecidableEq, Repr

/-- `minimum_packet_size()`: the destination, source and ethertype fields. -/
def minimumPacketSize : Nat := 14

/-- An `EthernetPacket`: a buffer that `new` found long enough for the header. -/
structure EthernetPacket where
  packet : List UInt8
  minimum : minimumPacketSize ≤ packet.length
  deriving DecidableEq

/-- A `MutableEthernetPacket`: a buffer that `new` found long enough for the header. -/
structure MutableEthernetPacket where
  packet : List UInt8
  minimum : minimumPacketSize ≤ packet.length
  deriving DecidableEq

/-- `EthernetPacket::new`: `None` on a buffer shorter than the header. -/
def EthernetPacket.new (packet : List UInt8) : Option EthernetPacket :=
  if h : minimumPacketSize ≤ packet.length then some ⟨packet, h⟩ else none

/-- `MutableEthernetPacket::new`: `None` on a buffer shorter than the header. -/
def MutableEthernetPacket.new (packet : List UInt8) : Option MutableEthernetPacket :=
  if h : minimumPacketSize ≤ packet.length then some ⟨packet, h⟩ else none

/-- `MutableEthernetPacket::to_immutable`: the same bytes, read only. -/
def MutableEthernetPacket.toImmutable (p : MutableEthernetPacket) : EthernetPacket :=
  ⟨p.packet, p.minimum⟩

theorem EthernetPacket.ext {p q : EthernetPacket} (h : p.packet = q.packet) : p = q := by
  cases p; cases q; cases h; rfl

/-- `l` with `vals` copied over `co..co + vals.length`. -/
def overwrite (l : List UInt8) (co : Nat) (vals : List UInt8) : List UInt8 :=
  l.take co ++ vals ++ l.drop (co + vals.length)

theorem length_overwrite {l vals : List UInt8} {co : Nat} (h : co + vals.length ≤ l.length) :
    (overwrite l co vals).length = l.length := by
  simp only [overwrite, List.length_append, List.length_take, List.length_drop]; omega

namespace EthernetPacket

variable (p : EthernetPacket)

/-- `_self.packet[co]` of the generated getters: every offset they read is below `14`, so the
read never panics. -/
def byte (co : Nat) (h : co < 14) : UInt8 :=
  p.packet.get ⟨co, Nat.lt_of_lt_of_le h p.minimum⟩

/-- The generated `get_arg0..5` of `get_destination` and `get_source`: the six octets from
offset `co` on. -/
def getMac (co : Nat) (h : co + 6 ≤ 14) : MacAddr :=
  MacAddr.new (p.byte (co + 0) (by omega)) (p.byte (co + 1) (by omega)) (p.byte (co + 2) (by omega))
    (p.byte (co + 3) (by omega)) (p.byte (co + 4) (by omega)) (p.byte (co + 5) (by omega))

/-- `get_destination`. -/
def getDestination : MacAddr := p.getMac 0 (by decide)

/-- `get_source`. -/
def getSource : MacAddr := p.getMac 6 (by decide)

/-- `get_ethertype`: `((packet[12] as u16) << 8) | packet[13] as u16`. -/
def getEthertype : EtherType := EtherType.new (beU16 (p.byte (12 + 0) (by decide)) (p.byte (12 + 1) (by decide)))

/-- `payload()`: the bytes after the header, empty when there are none. -/
def payload : List UInt8 := if p.packet.length ≤ 14 then [] else p.packet.drop 14

/-- `from_packet`. -/
def fromPacket : Ethernet :=
  { destination := p.getDestination, source := p.getSource, ethertype := p.getEthertype,
    payload := p.payload }

end EthernetPacket

namespace MutableEthernetPacket

variable (p : MutableEthernetPacket)

/-- `_self.packet[co + 0] = val` of the generated setters; they store only below offset `14`,
so the store never panics. -/
def setByte (co : Nat) (val : UInt8) : MutableEthernetPacket :=
  ⟨p.packet.set co val, by rw [List.length_set]; exact p.minimum⟩

/-- The generated `set_arg0..5` of `set_destination` and `set_source`: the six octets from
offset `co` on, one store each. -/
def setMac (co : Nat) (val : MacAddr) : MutableEthernetPacket :=
  (((((p.setByte (co + 0) val.a).setByte (co + 1) val.b).setByte (co + 2) val.c).setByte
    (co + 3) val.d).setByte (co + 4) val.e).setByte (co + 5) val.f

/-- `set_destination`. -/
def setDestination (val : MacAddr) : MutableEthernetPacket := p.setMac 0 val

/-- `set_source`. -/
def setSource (val : MacAddr) : MutableEthernetPacket := p.setMac 6 val

/-- `set_ethertype`: `((val & 65280) >> 8) as u8` at `12`, `val as u8` at `13`. -/
def setEthertype (val : EtherType) : MutableEthernetPacket :=
  (p.setByte (12 + 0) ((val.value &&& 65280) >>> 8).toUInt8).setByte (12 + 1) val.value.toUInt8

/-- `set_payload`: an unchecked `copy_nonoverlapping` of `vals` to offset `14`; `none` is the
undefined behaviour of a copy that runs past the buffer. -/
def setPayload (vals : List UInt8) : Option MutableEthernetPacket :=
  if h : 14 + vals.length ≤ p.packet.length then
    some ⟨overwrite p.packet 14 vals, by rw [length_overwrite h]; exact p.minimum⟩
  else none

/-- `populate`: the four setters in the order of the source. -/
def populate (packet : Ethernet) : Option MutableEthernetPacket :=
  (((p.setDestination packet.destination).setSource packet.source).setEthertype
    packet.ethertype).setPayload packet.payload

end MutableEthernetPacket

/-- The 14 header bytes of a frame: destination, source, the ethertype most significant byte
first. -/
def Ethernet.header (e : Ethernet) : List UInt8 :=
  e.destination.toPrimitiveValues ++ e.source.toPrimitiveValues ++
    [(e.ethertype.value >>> 8).toUInt8, e.ethertype.value.toUInt8]

/-- **The Ethernet II frame layout**: the header, then the payload. -/
def Ethernet.encode (e : Ethernet) : List UInt8 := e.header ++ e.payload

@[simp] theorem Ethernet.length_header (e : Ethernet) : e.header.length = 14 := rfl

@[simp] theorem Ethernet.length_encode (e : Ethernet) : e.encode.length = 14 + e.payload.length := by
  simp [Ethernet.encode]

/-! ### Stores as splices -/

section Overwrite

variable {l xs ys : List UInt8} {co : Nat}

@[simp] theorem overwrite_nil : overwrite l co [] = l := by simp [overwrite]

theorem overwrite_zero : overwrite l 0 xs = xs ++ l.drop xs.length := by simp [overwrite]

/-- A single in-bounds store is a one-byte splice. -/
theorem set_eq_overwrite {v : UInt8} (h : co < l.length) : l.set co v = overwrite l co [v] := by
  rw [List.set_eq_take_append_cons_drop, if_pos h]; simp [overwrite]

/-- Two adjacent writes are one write of both. -/
theorem overwrite_overwrite (h : co + xs.length ≤ l.length) :
    overwrite (overwrite l co xs) (co + xs.length) ys = overwrite l co (xs ++ ys) := by
  have hA : (l.take co ++ xs).length = co + xs.length := by simp; omega
  unfold overwrite
  rw [List.take_left' hA, List.append_assoc (l.take co ++ xs), ← hA, List.drop_append,
    List.drop_drop, hA]
  simp only [List.append_assoc, List.length_append, Nat.add_assoc]

/-- Storing `vals` one byte at a time from `co` on, as the generated setters do. -/
def storeAll (l : List UInt8) (co : Nat) : List UInt8 → List UInt8
  | [] => l
  | v :: vs => storeAll (l.set co v) (co + 1) vs

/-- **A run of in-bounds stores is one splice.** -/
theorem storeAll_eq : ∀ {l : List UInt8} {co : Nat} {vals : List UInt8},
    co + vals.length ≤ l.length → storeAll l co vals = overwrite l co vals
  | _, _, [], _ => by simp [storeAll]
  | l, co, v :: vs, h => by
    simp only [List.length_cons] at h
    have hl : co + 1 + vs.length ≤ (l.set co v).length := by simp; omega
    rw [storeAll, storeAll_eq hl, set_eq_overwrite (by omega),
      show co + 1 = co + [v].length from rfl, overwrite_overwrite (by simp; omega)]
    rfl

end Overwrite

/-! ### The setters -/

namespace MutableEthernetPacket

variable (p : MutableEthernetPacket)

theorem length_packet : 14 ≤ p.packet.length := p.minimum

theorem setMac_packet {co : Nat} (h : co + 6 ≤ 14) (val : MacAddr) :
    (p.setMac co val).packet = overwrite p.packet co val.toPrimitiveValues :=
  @storeAll_eq p.packet co val.toPrimitiveValues (Nat.le_trans h p.length_packet)

theorem setEthertype_packet (val : EtherType) :
    (p.setEthertype val).packet =
      overwrite p.packet 12 [(val.value >>> 8).toUInt8, val.value.toUInt8] := by
  rw [← and_65280_shiftRight]
  exact @storeAll_eq p.packet 12 [_, _] (Nat.le_trans (by simp) p.length_packet)

/-- The three header setters write the header of the frame layout. -/
theorem header_packet (e : Ethernet) :
    (((p.setDestination e.destination).setSource e.source).setEthertype e.ethertype).packet =
      overwrite p.packet 0 e.header := by
  have hl := p.length_packet
  rw [setEthertype_packet, setSource, setMac_packet _ (by decide), setDestination,
    setMac_packet _ (by decide), show 6 = 0 + e.destination.toPrimitiveValues.length from rfl,
    overwrite_overwrite (by simp [MacAddr.toPrimitiveValues]; omega),
    show 12 = 0 + (e.destination.toPrimitiveValues ++ e.source.toPrimitiveValues).length from rfl,
    overwrite_overwrite (by simp [MacAddr.toPrimitiveValues]; omega)]
  rfl

theorem setPayload_packet (vals : List UInt8) :
    (p.setPayload vals).map (·.packet) =
      if 14 + vals.length ≤ p.packet.length then some (overwrite p.packet 14 vals) else none := by
  unfold setPayload; split <;> simp_all

/-- **`populate` writes the frame layout.**  It is defined exactly when the payload fits the
buffer, and then the buffer starts with `encode e` and keeps the rest of its bytes. -/
theorem populate_eq (e : Ethernet) :
    (p.populate e).map (·.packet) =
      if 14 + e.payload.length ≤ p.packet.length then
        some (e.encode ++ p.packet.drop (14 + e.payload.length))
      else none := by
  have hl := p.length_packet
  rw [populate, setPayload_packet, header_packet, length_overwrite (by simp; omega)]
  split
  · rw [show 14 = 0 + e.header.length from rfl, overwrite_overwrite (by simp; omega),
      overwrite_zero]
    simp [Ethernet.encode]
  · rfl

end MutableEthernetPacket

/-! ### The getters -/

/-- **`from_packet` reads the frame layout back**: on `encode e ++ rest` it returns `e` with
the trailing bytes appended to the payload. -/
theorem fromPacket_encode (e : Ethernet) (rest : List UInt8)
    (h : minimumPacketSize ≤ (e.encode ++ rest).length) :
    (EthernetPacket.mk (e.encode ++ rest) h).fromPacket =
      { e with payload := e.payload ++ rest } := by
  have hdrop : (e.encode ++ rest).drop 14 = e.payload ++ rest := by
    rw [Ethernet.encode, List.append_assoc, List.drop_left' e.length_header]
  have hpay : (EthernetPacket.mk (e.encode ++ rest) h).payload = e.payload ++ rest := by
    unfold EthernetPacket.payload; split
    · next hle => rw [← hdrop, List.drop_eq_nil_of_le hle]
    · exact hdrop
  obtain ⟨dst, src, ⟨v⟩, payload⟩ := e
  rw [EthernetPacket.fromPacket, hpay]
  -- the addresses are read back by computation, the ethertype by `beU16_bytes`
  congr 1
  exact congrArg EtherType.mk (beU16_bytes v)

/-- The header `from_packet` reads is the first 14 bytes of the buffer. -/
theorem header_fromPacket (p : EthernetPacket) : p.fromPacket.header = p.packet.take 14 := by
  have hl : 14 ≤ p.packet.length := p.minimum
  simp only [EthernetPacket.fromPacket, Ethernet.header, EthernetPacket.getEthertype,
    EthernetPacket.getDestination, EthernetPacket.getSource, EthernetPacket.getMac, EtherType.new,
    MacAddr.new, MacAddr.toPrimitiveValues, beU16_hi, beU16_lo, List.cons_append, List.nil_append]
  apply List.ext_getElem (by simp; omega)
  intro i h1 _
  rw [List.getElem_take]
  simp only [List.length_cons, List.length_nil] at h1
  interval_cases i <;> rfl

/-- **Every frame is the encoding of what `from_packet` reads from it.** -/
theorem encode_fromPacket (p : EthernetPacket) : p.fromPacket.encode = p.packet := by
  have hl : 14 ≤ p.packet.length := p.minimum
  have hpay : p.payload = p.packet.drop 14 := by
    unfold EthernetPacket.payload; split
    · rw [List.drop_eq_nil_of_le (by omega)]
    · rfl
  rw [Ethernet.encode, header_fromPacket, EthernetPacket.fromPacket, hpay, List.take_append_drop]

/-! ### The round trips -/

/-- **`populate` and `from_packet` are inverse.**  Populating a buffer exactly as long as the
frame writes the frame layout, and `from_packet` reads the record back field for field; and
populating any buffer of a frame's length with what `from_packet` reads from the frame
rebuilds it byte for byte. -/
theorem populate_fromPacket_roundTrip :
    (∀ (e : Ethernet) (buf : List UInt8), buf.length = 14 + e.payload.length →
      ∃ m q, MutableEthernetPacket.new buf = some m ∧ m.populate e = some q ∧
        q.toImmutable.fromPacket = e ∧ q.packet = e.encode) ∧
    (∀ b c : List UInt8, 14 ≤ b.length → c.length = b.length →
      ∃ p m q, EthernetPacket.new b = some p ∧ MutableEthernetPacket.new c = some m ∧
        m.populate p.fromPacket = some q ∧ q.packet = b) := by
  constructor
  · intro e buf hbuf
    have hm : minimumPacketSize ≤ buf.length := by rw [hbuf]; exact Nat.le_add_right 14 _
    have hpop := (MutableEthernetPacket.mk buf hm).populate_eq e
    rw [if_pos hbuf.ge, ← hbuf, List.drop_length, List.append_nil, Option.map_eq_some'] at hpop
    obtain ⟨q, hq, hqp⟩ := hpop
    have hq14 : minimumPacketSize ≤ (e.encode ++ []).length := by simp [minimumPacketSize]
    refine ⟨_, q, dif_pos hm, hq, ?_, hqp⟩
    rw [show q.toImmutable = ⟨e.encode ++ [], hq14⟩ from EthernetPacket.ext (by simp [hqp,
      MutableEthernetPacket.toImmutable]), fromPacket_encode, List.append_nil]
  · intro b c hb hc
    let p : EthernetPacket := ⟨b, hb⟩
    have hm : minimumPacketSize ≤ c.length := hc ▸ hb
    have hlen : 14 + p.fromPacket.payload.length = c.length := by
      rw [hc, ← Ethernet.length_encode, encode_fromPacket]
    have hpop := (MutableEthernetPacket.mk c hm).populate_eq p.fromPacket
    rw [if_pos hlen.le, hlen, List.drop_length, List.append_nil, encode_fromPacket,
      Option.map_eq_some'] at hpop
    obtain ⟨q, hq, hqp⟩ := hpop
    exact ⟨p, _, q, dif_pos hb, dif_pos hm, hq, hqp⟩

/-- A broadcast ARP frame from `28:ef:f9:5f:8e:2b` with a zeroed 28-byte message. -/
def broadcastArp : Ethernet :=
  { destination := ⟨255, 255, 255, 255, 255, 255⟩, source := ⟨0x28, 0xef, 0xf9, 0x5f, 0x8e, 0x2b⟩,
    ethertype := ⟨0x0806⟩, payload := List.replicate 28 0 }

theorem populate_fromPacket_roundTrip_broadcastArp :
    ∃ m q, MutableEthernetPacket.new (List.replicate 42 0) = some m ∧
      m.populate broadcastArp = some q ∧ q.toImmutable.fromPacket = broadcastArp ∧
      q.packet = broadcastArp.encode :=
  populate_fromPacket_roundTrip.1 broadcastArp _ rfl

end LinkLayer.Ether
