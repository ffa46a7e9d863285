import LinkLayer.Arp.Setters

/-!
# Decoding and re-encoding an ARP message is lossless

A client that copies a received message into another buffer of the same length does it
with the codec alone: it writes the two length bytes first (they place the address
fields), then each other field with the value the getter of the received message returned.
`Packet.reencode` is that client (its header half is `Packet.reencodeHeader`).
`reencode_lossless` shows it reproduces every byte of the message, for every layout and every
code, including codes kept in an `Unknown` variant, and touches nothing after the message.

The proof carries one invariant along the nine writes, `Blend S b c x`: `x` holds the bytes
of `b` on the indices in `S` and those of `c` elsewhere.  Each write adds its own field to
`S` (`blend_step`); after the ninth, `S` is the whole message.
-/

namespace LinkLayer.Arp

namespace Packet

/-- The header half of `reencode`: the two lengths of `b` first, then its three codes. -/
def reencodeHeader (b c : Packet) : Option Packet :=
  b.hardwareLen.bind fun h => b.protocolLen.bind fun pl => b.hardwareType.bind fun ht =>
  b.protocolType.bind fun pt => b.operation.bind fun op =>
  (c.setHardwareLen h).bind fun c => (c.setProtocolLen pl).bind fun c =>
  (c.setHardwareType ht).bind fun c => (c.setProtocolType pt).bind fun c => c.setOperation op

/-- Decode `b` with the getters and encode the message into `c` with the setters: the
header first, lengths before everything else, then the four addresses in order. -/
def reencode (b c : Packet) : Option Packet :=
  b.sourceHardwareAddr.bind fun sha => b.sourceProtocolAddr.bind fun spa =>
  b.targetHardwareAddr.bind fun tha => b.targetProtocolAddr.bind fun tpa =>
  (reencodeHeader b c).bind fun c => (c.setSourceHardwareAddr sha).bind fun c =>
  (c.setSourceProtocolAddr spa).bind fun c => (c.setTargetHardwareAddr tha).bind fun c =>
  c.setTargetProtocolAddr tpa

/-- `x` holds the bytes of `b` on `S` and the bytes of `c` elsewhere. -/
def Blend (S : Nat → Prop) [DecidablePred S] (b c x : Packet) : Prop :=
  x.buffer.length = c.buffer.length ∧
    ∀ i, x.buffer[i]? = if S i then b.buffer[i]? else c.buffer[i]?

section Steps

variable {b c x : Packet} {S : Nat → Prop} [DecidablePred S]

/-- A write that puts the bytes of `b` on `r` adds `r` to the blend. -/
theorem blend_step {y : Packet} {r : Field} (hx : Blend S b c x) (hw : WritesOnly r x y)
    (hr : ∀ i, r.start ≤ i → i < r.stop → y.buffer[i]? = b.buffer[i]?) :
    Blend (fun i => S i ∨ (r.start ≤ i ∧ i < r.stop)) b c y := by
  refine ⟨hw.1.trans hx.1, fun i => ?_⟩
  by_cases hi : r.start ≤ i ∧ i < r.stop
  · rw [hr i hi.1 hi.2, if_pos (.inr hi)]
  · rw [hw.2 i hi, hx.2 i]
    by_cases hs : S i
    · rw [if_pos hs, if_pos (.inl hs)]
    · rw [if_neg hs, if_neg (by tauto)]

theorem Blend.congr {T : Nat → Prop} [DecidablePred T] (hx : Blend S b c x)
    (h : ∀ i, S i ↔ T i) : Blend T b c x :=
  ⟨hx.1, fun i => by rw [hx.2 i]; exact if_congr (h i) rfl rfl⟩

section Writes

variable (hlen : c.buffer.length = b.buffer.length) (h8 : 8 ≤ b.buffer.length)
include hlen h8

/-- Writing a byte of `b` at index `i`. -/
theorem blend_setAt (hx : Blend S b c x) {i : Nat} (hi : i < 8) {v : UInt8}
    (hv : b.buffer[i]? = some v) :
    ∃ y, setAt x.buffer i v = some y ∧
      Blend (fun j => S j ∨ (i ≤ j ∧ j < i + 1)) b c ⟨y⟩ := by
  have hix : i < x.buffer.length := by rw [hx.1]; omega
  refine ⟨_, if_pos hix, blend_step (r := ⟨i, i + 1⟩) hx ⟨by simp, fun j hj => ?_⟩ ?_⟩
  · exact (List.getElem?_set_ne (by dsimp only at hj; omega))
  · intro j h1 h2
    obtain rfl : j = i := by dsimp only at h1 h2; omega
    simp [hix, hv]

/-- Writing the code `b` has at a two-byte header field. -/
theorem blend_setCode {α : Type} [EnumWithUnknown α] (hx : Blend S b c x) {f : Field}
    (hf : f.stop ≤ 8) (h2 : f.len = 2) :
    ∃ y, x.setCode f (ofU16 (α := α)
        (beU16 (b.buffer.getD f.start 0) (b.buffer.getD (f.start + 1) 0))) = some y ∧
      Blend (fun j => S j ∨ (f.start ≤ j ∧ j < f.stop)) b c y := by
  have hfx : f.Fits x.buffer.length := by
    simp only [Field.Fits, Field.len, hx.1, hlen] at *; omega
  have hfb : f.Fits b.buffer.length := by simp only [Field.Fits, Field.len] at *; omega
  obtain ⟨y, hy, hw, hidx⟩ := x.setCode_spec hfx h2 (ofU16 (α := α)
    (beU16 (b.buffer.getD f.start 0) (b.buffer.getD (f.start + 1) 0)))
  simp only [EnumWithUnknown.toU16_ofU16, beU16_hi, beU16_lo, ← Field.index_two hfb h2] at hidx
  have hb := Field.index_two hfb h2
  exact ⟨y, hy, blend_step hx hw fun i hi1 hi2 =>
    Field.getElem?_eq_of_index_eq (hidx.trans hb) hb hi1 hi2⟩

/-- Writing the address field of `b` at the layout `b`'s lengths give, once the blend holds
`b`'s two length bytes. -/
theorem blend_setAddr (hx : Blend S b c x) (h45 : S HLEN ∧ S PLEN)
    (layout : UInt8 → UInt8 → Field)
    (hf : (layout (b.buffer.getD HLEN 0) (b.buffer.getD PLEN 0)).Fits b.buffer.length) :
    ∃ y, x.setAddr layout ((b.buffer.drop (layout (b.buffer.getD HLEN 0)
        (b.buffer.getD PLEN 0)).start).take (layout (b.buffer.getD HLEN 0)
        (b.buffer.getD PLEN 0)).len) = some y ∧
      Blend (fun j => S j ∨ ((layout (b.buffer.getD HLEN 0) (b.buffer.getD PLEN 0)).start ≤ j ∧
        j < (layout (b.buffer.getD HLEN 0) (b.buffer.getD PLEN 0)).stop)) b c y := by
  have hl : x.buffer.getD HLEN 0 = b.buffer.getD HLEN 0 := by
    simp only [List.getD_eq_getElem?_getD, hx.2 HLEN, if_pos h45.1]
  have hpl : x.buffer.getD PLEN 0 = b.buffer.getD PLEN 0 := by
    simp only [List.getD_eq_getElem?_getD, hx.2 PLEN, if_pos h45.2]
  set r := layout (b.buffer.getD HLEN 0) (b.buffer.getD PLEN 0)
  have hidx := Field.index_eq hf
  obtain ⟨y, hy, hw, hidy⟩ := x.setAddr_spec layout (by rw [hx.1]; omega)
    (by rw [hl, hpl, hx.1, hlen]; exact hf) _ (by rw [hl, hpl, Field.length_of_index hidx])
  rw [hl, hpl] at hw hidy
  exact ⟨y, hy, blend_step hx hw fun i h1 h2 => Field.getElem?_eq_of_index_eq hidy hidx h1 h2⟩

end Writes

section Run

variable (hb : b.checkLen = some (.ok ())) (hlen : c.buffer.length = b.buffer.length)
include hb hlen

/-- The header half leaves `c` with the whole fixed header of `b`. -/
theorem reencodeHeader_blend :
    ∃ x, reencodeHeader b c = some x ∧ Blend (fun i => i < 8) b c x := by
  have h8 := (b.checkLen_ok_iff.1 hb).1
  have h0 : Blend (fun _ => False) b c c := ⟨rfl, fun i => (if_neg id).symm⟩
  obtain ⟨y1, e1, h1⟩ := blend_setAt hlen h8 h0 (i := HLEN) (by decide)
    (List.getElem?_eq_getElem (by simp only [HLEN]; omega))
  obtain ⟨y2, e2, h2⟩ := blend_setAt hlen h8 h1 (i := PLEN) (by decide)
    (List.getElem?_eq_getElem (by simp only [PLEN]; omega))
  obtain ⟨y3, e3, h3⟩ := blend_setCode (α := Hardware) hlen h8 h2 (f := HTYPE) (by decide) rfl
  obtain ⟨y4, e4, h4⟩ := blend_setCode (α := Protocol) hlen h8 h3 (f := PTYPE) (by decide) rfl
  obtain ⟨y5, e5, h5⟩ := blend_setCode (α := Operation) hlen h8 h4 (f := OPER) (by decide) rfl
  refine ⟨y5, ?_, h5.congr fun i => by simp only [HLEN, PLEN, HTYPE_start, HTYPE_stop,
    PTYPE_start, PTYPE_stop, OPER_start, OPER_stop, false_or]; constructor <;> intro <;> omega⟩
  have hf : ∀ f : Field, f.start ≤ f.stop → f.stop ≤ 8 → f.Fits b.buffer.length :=
    fun f h1 h2 => ⟨h1, by omega⟩
  simp only [reencodeHeader, hardwareType, protocolType, operation, hardwareLen, protocolLen,
    List.getElem?_eq_getElem (show HLEN < b.buffer.length by simp only [HLEN]; omega),
    List.getElem?_eq_getElem (show PLEN < b.buffer.length by simp only [PLEN]; omega),
    getCode_eq b (hf HTYPE (by decide) (by decide)) rfl,
    getCode_eq b (hf PTYPE (by decide) (by decide)) rfl,
    getCode_eq b (hf OPER (by decide) (by decide)) rfl, Option.some_bind, setHardwareLen,
    setProtocolLen, e1, e2, Option.map_some', setHardwareType, setProtocolType, setOperation, e3,
    e4, e5]

/-- The whole of `reencode` leaves `c` with the whole message of `b`. -/
theorem reencode_blend :
    ∃ x, reencode b c = some x ∧ Blend (fun i =>
      i < 8 + 2 * (b.buffer.getD HLEN 0).toNat + 2 * (b.buffer.getD PLEN 0).toNat) b c x := by
  have hl := b.checkLen_ok_iff.1 hb
  simp only [declaredHardwareLen, declaredProtocolLen] at hl
  obtain ⟨x5, e5, h5⟩ := reencodeHeader_blend hb hlen
  have hf : ∀ layout : UInt8 → UInt8 → Field,
      (layout (b.buffer.getD HLEN 0) (b.buffer.getD PLEN 0)).start ≤
        (layout (b.buffer.getD HLEN 0) (b.buffer.getD PLEN 0)).stop →
      (layout (b.buffer.getD HLEN 0) (b.buffer.getD PLEN 0)).stop ≤
        8 + 2 * (b.buffer.getD HLEN 0).toNat + 2 * (b.buffer.getD PLEN 0).toNat →
      (layout (b.buffer.getD HLEN 0) (b.buffer.getD PLEN 0)).Fits b.buffer.length :=
    fun _ h1 h2 => ⟨h1, by omega⟩
  obtain ⟨x6, e6, h6⟩ := blend_setAddr hlen hl.1 h5 ⟨by decide, by decide⟩ SHA
    (hf SHA (by simp) (by simp; omega))
  obtain ⟨x7, e7, h7⟩ := blend_setAddr hlen hl.1 h6 ⟨.inl (by decide), .inl (by decide)⟩ SPA
    (hf SPA (by simp) (by simp; omega))
  obtain ⟨x8, e8, h8⟩ := blend_setAddr hlen hl.1 h7
    ⟨.inl (.inl (by decide)), .inl (.inl (by decide))⟩ THA (hf THA (by simp) (by simp; omega))
  obtain ⟨x9, e9, h9⟩ := blend_setAddr hlen hl.1 h8
    ⟨.inl (.inl (.inl (by decide))), .inl (.inl (.inl (by decide)))⟩ TPA
    (hf TPA (by simp) (by simp; omega))
  refine ⟨x9, ?_, h9.congr fun i => by
    simp only [SHA_start, SHA_stop, SPA_start, SPA_stop, THA_start, THA_stop, TPA_start, TPA_stop]
    constructor <;> intro <;> omega⟩
  simp only [reencode, sourceHardwareAddr, sourceProtocolAddr, targetHardwareAddr,
    targetProtocolAddr, getAddr_eq b _ (by omega),
    Field.index_eq (hf SHA (by simp) (by simp; omega)),
    Field.index_eq (hf SPA (by simp) (by simp; omega)),
    Field.index_eq (hf THA (by simp) (by simp; omega)),
    Field.index_eq (hf TPA (by simp) (by simp; omega)), Option.some_bind, e5,
    setSourceHardwareAddr, setSourceProtocolAddr, setTargetHardwareAddr, setTargetProtocolAddr,
    e6, e7, e8, e9]

end Run

end Steps

end Packet

/-- **Decoding then re-encoding is lossless.**  For every buffer `b` that passes
`check_len`, with `h = b[4]` and `p = b[5]`, and every buffer `c` of the same length:
writing `h` and `p` into `c`, then the hardware type, protocol type and operation that `b`'s
getters return, then `b`'s four address fields, succeeds and makes `c[0..8+2h+2p]` equal to
`b[0..8+2h+2p]` while leaving `c[8+2h+2p..]` as it was. -/
theorem reencode_lossless (b c : Packet) (hb : b.checkLen = some (.ok ()))
    (hlen : c.buffer.length = b.buffer.length) :
    ∃ c', b.reencode c = some c' ∧
      c'.buffer.take (8 + 2 * (b.buffer.getD HLEN 0).toNat + 2 * (b.buffer.getD PLEN 0).toNat) =
        b.buffer.take (8 + 2 * (b.buffer.getD HLEN 0).toNat + 2 * (b.buffer.getD PLEN 0).toNat) ∧
      c'.buffer.drop (8 + 2 * (b.buffer.getD HLEN 0).toNat + 2 * (b.buffer.getD PLEN 0).toNat) =
        c.buffer.drop (8 + 2 * (b.buffer.getD HLEN 0).toNat + 2 * (b.buffer.getD PLEN 0).toNat) := by
  obtain ⟨c', e, hx⟩ := Packet.reencode_blend hb hlen
  refine ⟨c', e, List.ext_getElem? fun i => ?_, List.ext_getElem? fun i => ?_⟩
  · simp only [List.getElem?_take, hx.2 i]
    split <;> simp_all
  · simp only [List.getElem?_drop, hx.2, if_neg (Nat.not_lt.2 (Nat.le_add_right _ i))]

theorem reencode_lossless_arpRequest :
    arpRequest.checkLen = some (.ok ()) ∧
    (List.replicate 28 (0 : UInt8)).length = arpRequest.buffer.length ∧
    ∃ c', arpRequest.reencode ⟨List.replicate 28 0⟩ = some c' ∧
      c'.buffer.take (8 + 2 * (arpRequest.buffer.getD HLEN 0).toNat +
          2 * (arpRequest.buffer.getD PLEN 0).toNat) =
        arpRequest.buffer.take (8 + 2 * (arpRequest.buffer.getD HLEN 0).toNat +
          2 * (arpRequest.buffer.getD PLEN 0).toNat) ∧
      c'.buffer.drop (8 + 2 * (arpRequest.buffer.getD HLEN 0).toNat +
          2 * (arpRequest.buffer.getD PLEN 0).toNat) =
        (List.replicate 28 (0 : UInt8)).drop (8 + 2 * (arpRequest.buffer.getD HLEN 0).toNat +
          2 * (arpRequest.buffer.getD PLEN 0).toNat) :=
  ⟨rfl, rfl, reencode_lossless arpRequest ⟨List.replicate 28 0⟩ rfl rfl⟩

end LinkLayer.Arp
