import LinkLayer.Arp.Packet

/-!
# `check_len` is exactly the absence of panics

The docstring of `check_len` promises: "Ensure that no accessor method will panic if
called."  This file shows that it keeps that promise exactly, for every buffer: `check_len`
never panics itself, it returns `Ok` iff the buffer holds the fixed header and the four
address fields its own length bytes declare, and that is the case iff none of the nine
accessors panics.  On such a buffer the four addresses are the consecutive slices
`8..8+h`, `8+h..8+h+p`, `8+h+p..8+2h+p`, `8+2h+p..8+2h+2p`.

The proofs go through one value lemma per accessor family (`getCode_eq`, `getAddr_eq`), so
nothing below unfolds an accessor.
-/

namespace LinkLayer.Arp

namespace Packet

variable (p : Packet)

/-- The hardware length the buffer declares (byte 4, `0` past the end). -/
def declaredHardwareLen : Nat := (p.buffer.getD HLEN 0).toNat

/-- The protocol length the buffer declares (byte 5, `0` past the end). -/
def declaredProtocolLen : Nat := (p.buffer.getD PLEN 0).toNat

private theorem getElem?_eq_getD {l : List UInt8} {i : Nat} (h : i < l.length) :
    l[i]? = some (l.getD i 0) := by
  simp [List.getD_eq_getElem?_getD, List.getElem?_eq_getElem h]

theorem hardwareLen_eq (h : 5 ≤ p.buffer.length) :
    p.hardwareLen = some (p.buffer.getD HLEN 0) := getElem?_eq_getD (by simp [HLEN]; omega)

theorem protocolLen_eq (h : 6 ≤ p.buffer.length) :
    p.protocolLen = some (p.buffer.getD PLEN 0) := getElem?_eq_getD (by simp [PLEN]; omega)

@[simp] theorem hardwareLen_isSome : p.hardwareLen.isSome ↔ 5 ≤ p.buffer.length := by
  rw [Option.isSome_iff_ne_none, hardwareLen, Ne, List.getElem?_eq_none_iff, HLEN]; omega

@[simp] theorem protocolLen_isSome : p.protocolLen.isSome ↔ 6 ≤ p.buffer.length := by
  rw [Option.isSome_iff_ne_none, protocolLen, Ne, List.getElem?_eq_none_iff, PLEN]; omega

/-- A code getter reads the two bytes of its field, most significant first. -/
theorem getCode_eq {α : Type} [EnumWithUnknown α] {f : Field} (hf : f.Fits p.buffer.length)
    (h2 : f.len = 2) :
    p.getCode f = some (ofU16 (α := α)
      (beU16 (p.buffer.getD f.start 0) (p.buffer.getD (f.start + 1) 0))) := by
  simp [getCode, Field.index_two hf h2, BigEndian.readU16]

@[simp] theorem getCode_isSome {α : Type} [EnumWithUnknown α] {f : Field} (h2 : f.len = 2) :
    (p.getCode (α := α) f).isSome ↔ f.Fits p.buffer.length := by
  by_cases hf : f.Fits p.buffer.length
  · simp [getCode_eq p hf h2, hf]
  · simp [getCode, Field.index_eq_none hf, hf]

/-- An address getter slices its field at the place the two length bytes give it. -/
theorem getAddr_eq (layout : UInt8 → UInt8 → Field) (h : 6 ≤ p.buffer.length) :
    p.getAddr layout = (layout (p.buffer.getD HLEN 0) (p.buffer.getD PLEN 0)).index p.buffer := by
  simp [getAddr, hardwareLen_eq p (by omega), protocolLen_eq p h]

@[simp] theorem getAddr_isSome (layout : UInt8 → UInt8 → Field) :
    (p.getAddr layout).isSome ↔ 6 ≤ p.buffer.length ∧
      (layout (p.buffer.getD HLEN 0) (p.buffer.getD PLEN 0)).Fits p.buffer.length := by
  by_cases h : 6 ≤ p.buffer.length
  · simp [getAddr_eq p layout h, h]
  · have : p.protocolLen = none := Option.not_isSome_iff_eq_none.1 (mt (protocolLen_isSome p).1 h)
    simp [getAddr, this, h]

/-- `check_len` never panics: it reads the length bytes only once the fixed header is
known to be there. -/
theorem checkLen_eq :
    p.checkLen = some (if 8 ≤ p.buffer.length ∧
        8 + 2 * p.declaredHardwareLen + 2 * p.declaredProtocolLen ≤ p.buffer.length
      then .ok () else .error .truncated) := by
  unfold checkLen
  by_cases h8 : p.buffer.length < 8
  · simp [h8, show ¬ 8 ≤ p.buffer.length by omega]
  · simp only [OPER_stop, h8, if_false, hardwareLen_eq p (by omega), protocolLen_eq p (by omega),
      Option.some_bind, TPA_stop, declaredHardwareLen, declaredProtocolLen]
    by_cases hl : p.buffer.length < 8 + (p.buffer.getD HLEN 0).toNat +
        (p.buffer.getD PLEN 0).toNat + (p.buffer.getD HLEN 0).toNat + (p.buffer.getD PLEN 0).toNat
    · rw [if_pos hl, if_neg (by omega)]
    · rw [if_neg hl, if_pos (by omega)]

theorem checkLen_ok_iff :
    p.checkLen = some (.ok ()) ↔ 8 ≤ p.buffer.length ∧
      8 + 2 * p.declaredHardwareLen + 2 * p.declaredProtocolLen ≤ p.buffer.length := by
  rw [checkLen_eq]; split <;> simp_all

/-- The view is defined exactly on buffers that hold the whole declared message. -/
theorem view_defined_iff :
    p.view.Defined ↔ 8 ≤ p.buffer.length ∧
      8 + 2 * p.declaredHardwareLen + 2 * p.declaredProtocolLen ≤ p.buffer.length := by
  simp only [View.Defined, view, hardwareType, protocolType, operation, sourceHardwareAddr,
    sourceProtocolAddr, targetHardwareAddr, targetProtocolAddr,
    getCode_isSome p (rfl : HTYPE.len = 2), getCode_isSome p (rfl : PTYPE.len = 2), getCode_isSome p (rfl : OPER.len = 2),
    hardwareLen_isSome, protocolLen_isSome, getAddr_isSome, Field.Fits, SHA_start, SHA_stop,
    SPA_start, SPA_stop, THA_start, THA_stop, TPA_start, TPA_stop, HTYPE_start, HTYPE_stop,
    PTYPE_start, PTYPE_stop, OPER_start, OPER_stop, declaredHardwareLen, declaredProtocolLen]
  omega

/-- On a buffer that holds the declared message, each address getter returns its slice. -/
theorem addrs_eq (h : 8 ≤ p.buffer.length)
    (hle : 8 + 2 * p.declaredHardwareLen + 2 * p.declaredProtocolLen ≤ p.buffer.length) :
    p.sourceHardwareAddr = some ((p.buffer.drop 8).take p.declaredHardwareLen) ∧
    p.sourceProtocolAddr =
      some ((p.buffer.drop (8 + p.declaredHardwareLen)).take p.declaredProtocolLen) ∧
    p.targetHardwareAddr = some ((p.buffer.drop
      (8 + p.declaredHardwareLen + p.declaredProtocolLen)).take p.declaredHardwareLen) ∧
    p.targetProtocolAddr = some ((p.buffer.drop
      (8 + 2 * p.declaredHardwareLen + p.declaredProtocolLen)).take p.declaredProtocolLen) := by
  simp only [declaredHardwareLen, declaredProtocolLen] at *
  simp only [sourceHardwareAddr, sourceProtocolAddr, targetHardwareAddr, targetProtocolAddr,
    getAddr_eq p _ (by omega)]
  refine ⟨?_, ?_, ?_, ?_⟩ <;>
  · rw [Field.index_eq (by simp only [Field.Fits, SHA_start, SHA_stop, SPA_start, SPA_stop,
      THA_start, THA_stop, TPA_start, TPA_stop]; omega)]
    simp only [Field.len, SHA_start, SHA_stop, SPA_start, SPA_stop, THA_start, THA_stop,
      TPA_start, TPA_stop]
    congr 2
    all_goals first | omega | (congr 1; omega)

end Packet

/-- **`check_len` decides the panics of the accessors.**  For every buffer: `check_len`
returns `Ok` exactly when the buffer holds the fixed header and `8 + 2h + 2p` bytes for the
lengths `h = b[4]`, `p = b[5]` it declares, and `Err(Truncated)` otherwise; `Ok` comes
exactly when no accessor panics, so `new_checked` accepts exactly those buffers; and then
the four address fields are the four consecutive slices after the header. -/
theorem checkLen_ok_iff_accessors_defined (b : List UInt8) :
    ((Packet.newUnchecked b).checkLen = some (.ok ()) ↔
      8 ≤ b.length ∧ 8 + 2 * (b.getD 4 0).toNat + 2 * (b.getD 5 0).toNat ≤ b.length) ∧
    ((Packet.newUnchecked b).checkLen = some (.error .truncated) ↔
      ¬ (8 ≤ b.length ∧ 8 + 2 * (b.getD 4 0).toNat + 2 * (b.getD 5 0).toNat ≤ b.length)) ∧
    ((Packet.newUnchecked b).checkLen = some (.ok ()) ↔ (Packet.newUnchecked b).view.Defined) ∧
    (Packet.newChecked b = some (.ok (Packet.newUnchecked b)) ↔
      (Packet.newUnchecked b).view.Defined) ∧
    ((Packet.newUnchecked b).checkLen = some (.ok ()) →
      (Packet.newUnchecked b).sourceHardwareAddr =
        some ((b.drop 8).take (b.getD 4 0).toNat) ∧
      (Packet.newUnchecked b).sourceProtocolAddr =
        some ((b.drop (8 + (b.getD 4 0).toNat)).take (b.getD 5 0).toNat) ∧
      (Packet.newUnchecked b).targetHardwareAddr =
        some ((b.drop (8 + (b.getD 4 0).toNat + (b.getD 5 0).toNat)).take (b.getD 4 0).toNat) ∧
      (Packet.newUnchecked b).targetProtocolAddr =
        some ((b.drop (8 + 2 * (b.getD 4 0).toNat + (b.getD 5 0).toNat)).take
          (b.getD 5 0).toNat)) := by
  have hc := (Packet.newUnchecked b).checkLen_eq
  have hv := (Packet.newUnchecked b).view_defined_iff
  have hok := (Packet.newUnchecked b).checkLen_ok_iff
  simp only [Packet.newUnchecked, Packet.declaredHardwareLen, Packet.declaredProtocolLen, HLEN,
    PLEN] at hc hv hok ⊢
  refine ⟨hok, ?_, hok.trans hv.symm, ?_,
    fun hk => (Packet.mk b).addrs_eq (hok.1 hk).1 (hok.1 hk).2⟩
  · rw [hc]; split <;> simp_all
  · rw [hv]
    simp only [Packet.newChecked, Packet.newUnchecked, hc]
    split <;> simp_all [Except.map]

end LinkLayer.Arp
