import LinkLayer.Bytes

/-!
# The ARP message codec

`arp.rs` puts ARP structure on a raw buffer without copying or checking it
(`Packet::new_unchecked`).  The fixed header is eight bytes: hardware type, protocol type,
the two address lengths, the operation.  The four addresses follow, and their offsets are
computed at every access from the two length bytes of the same buffer (`SHA`, `SPA`, `THA`,
`TPA`).  Every accessor therefore indexes the buffer directly and panics when it runs past
the end; here an accessor returns `none` where Rust panics.  `check_len` is the check that
is meant to rule those panics out.

The three code fields (`hardware_type`, `protocol_type`, `operation`) share one getter and
one setter with the field as parameter, `Packet.getCode`/`Packet.setCode`; the four
address fields share `Packet.getAddr`/`Packet.setAddr` with the layout function as
parameter.  Each accessor of the source is that definition applied to its own field.

`View` collects the nine accessors' values: it is what the codec shows of a buffer.
-/

namespace LinkLayer.Arp

/-- The conversions `enum_with_unknown!` generates for an enumeration over `u16`:
`From<u16>` maps the listed codes to their variants and keeps any other code in `Unknown`,
`From<Self> for u16` maps back.  `toU16_ofU16` is the round trip of the two matches. -/
class EnumWithUnknown (α : Type) where
  ofU16 : UInt16 → α
  toU16 : α → UInt16
  toU16_ofU16 : ∀ value, toU16 (ofU16 value) = value

export EnumWithUnknown (ofU16 toU16)

attribute [simp] EnumWithUnknown.toU16_ofU16

/-- Ethernet protocol type. -/
inductive Protocol
  | ipv4
  | arp
  | ipv6
  | unknown (code : UInt16)
  deriving DecidableEq, Repr

/-- ARP hardware type. -/
inductive Hardware
  | ethernet
  | unknown (code : UInt16)
  deriving DecidableEq, Repr

/-- ARP operation type. -/
inductive Operation
  | request
  | reply
  | unknown (code : UInt16)
  deriving DecidableEq, Repr

/-- `From<u16> for Protocol`. -/
def Protocol.ofU16 (value : UInt16) : Protocol :=
  match value with
  | 0x0800 => .ipv4
  | 0x0806 => .arp
  | 0x86DD => .ipv6
  | other => .unknown other

/-- `From<Protocol> for u16`. -/
def Protocol.toU16 : Protocol → UInt16
  | .ipv4 => 0x0800
  | .arp => 0x0806
  | .ipv6 => 0x86DD
  | .unknown other => other

/-- `From<u16> for Hardware`. -/
def Hardware.ofU16 (value : UInt16) : Hardware :=
  match value with
  | 1 => .ethernet
  | other => .unknown other

/-- `From<Hardware> for u16`. -/
def Hardware.toU16 : Hardware → UInt16
  | .ethernet => 1
  | .unknown other => other

/-- `From<u16> for Operation`. -/
def Operation.ofU16 (value : UInt16) : Operation :=
  match value with
  | 1 => .request
  | 2 => .reply
  | other => .unknown other

/-- `From<Operation> for u16`. -/
def Operation.toU16 : Operation → UInt16
  | .request => 1
  | .reply => 2
  | .unknown other => other

instance : EnumWithUnknown Protocol where
  ofU16 := Protocol.ofU16
  toU16 := Protocol.toU16
  toU16_ofU16 value := by unfold Protocol.ofU16; split <;> simp_all [Protocol.toU16]

instance : EnumWithUnknown Hardware where
  ofU16 := Hardware.ofU16
  toU16 := Hardware.toU16
  toU16_ofU16 value := by unfold Hardware.ofU16; split <;> simp_all [Hardware.toU16]

instance : EnumWithUnknown Operation where
  ofU16 := Operation.ofU16
  toU16 := Operation.toU16
  toU16_ofU16 value := by unfold Operation.ofU16; split <;> simp_all [Operation.toU16]

/-- The errors of the codec (`arp::Error`); `check_len` only ever reports `truncated`. -/
inductive Error
  | exhausted
  | illegal
  | unaddressable
  | truncated
  | checksum
  | unrecognized
  | fragmented
  | malformed
  | dropped
  | nonexhaustive
  deriving DecidableEq, Repr

/-- `Packet<T>`: a buffer read as an ARP message.  Nothing about the buffer is checked. -/
structure Packet where
  buffer : List UInt8
  deriving DecidableEq, Repr

/-! ## Layout -/

def HTYPE : Field := ⟨0, 2⟩
def PTYPE : Field := ⟨2, 4⟩
def HLEN : Nat := 4
def PLEN : Nat := 5
def OPER : Field := ⟨6, 8⟩

/-- Source hardware address: `hardware_len` bytes after the fixed header. -/
def SHA (hardwareLen _protocolLen : UInt8) : Field :=
  let start := OPER.stop
  ⟨start, start + hardwareLen.toNat⟩

/-- Source protocol address: `protocol_len` bytes after `SHA`. -/
def SPA (hardwareLen protocolLen : UInt8) : Field :=
  let start := (SHA hardwareLen protocolLen).stop
  ⟨start, start + protocolLen.toNat⟩

/-- Target hardware address: `hardware_len` bytes after `SPA`. -/
def THA (hardwareLen protocolLen : UInt8) : Field :=
  let start := (SPA hardwareLen protocolLen).stop
  ⟨start, start + hardwareLen.toNat⟩

/-- Target protocol address: `protocol_len` bytes after `THA`. -/
def TPA (hardwareLen protocolLen : UInt8) : Field :=
  let start := (THA hardwareLen protocolLen).stop
  ⟨start, start + protocolLen.toNat⟩

/-! ## Accessors -/

namespace Packet

/-- `new_unchecked`. -/
def newUnchecked (buffer : List UInt8) : Packet := ⟨buffer⟩

/-- `into_inner`. -/
def intoInner (p : Packet) : List UInt8 := p.buffer

/-- `T::from(BigEndian::read_u16(&data[f]))`, the getter of a code field. -/
def getCode {α : Type} [EnumWithUnknown α] (p : Packet) (f : Field) : Option α :=
  ((f.index p.buffer).bind BigEndian.readU16).map ofU16

/-- `hardware_type`. -/
def hardwareType (p : Packet) : Option Hardware := p.getCode HTYPE

/-- `protocol_type`. -/
def protocolType (p : Packet) : Option Protocol := p.getCode PTYPE

/-- `hardware_len`: `data[HLEN]`. -/
def hardwareLen (p : Packet) : Option UInt8 := p.buffer[HLEN]?

/-- `protocol_len`: `data[PLEN]`. -/
def protocolLen (p : Packet) : Option UInt8 := p.buffer[PLEN]?

/-- `operation`. -/
def operation (p : Packet) : Option Operation := p.getCode OPER

/-- `&data[layout(self.hardware_len(), self.protocol_len())]`, the getter of an address
field. -/
def getAddr (p : Packet) (layout : UInt8 → UInt8 → Field) : Option (List UInt8) :=
  p.hardwareLen.bind fun h => p.protocolLen.bind fun pl => (layout h pl).index p.buffer

/-- `source_hardware_addr`. -/
def sourceHardwareAddr (p : Packet) : Option (List UInt8) := p.getAddr SHA

/-- `source_protocol_addr`. -/
def sourceProtocolAddr (p : Packet) : Option (List UInt8) := p.getAddr SPA

/-- `target_hardware_addr`. -/
def targetHardwareAddr (p : Packet) : Option (List UInt8) := p.getAddr THA

/-- `target_protocol_addr`. -/
def targetProtocolAddr (p : Packet) : Option (List UInt8) := p.getAddr TPA

/-- `check_len`: `Err(Truncated)` below the fixed header, then below the end of `TPA` as
the buffer's own length bytes place it. -/
def checkLen (p : Packet) : Option (Except Error Unit) :=
  let len := p.buffer.length
  if len < OPER.stop then some (.error .truncated)
  else
    p.hardwareLen.bind fun h => p.protocolLen.bind fun pl =>
      if len < (TPA h pl).stop then some (.error .truncated) else some (.ok ())

/-- `new_checked`: `new_unchecked` followed by `check_len`. -/
def newChecked (buffer : List UInt8) : Option (Except Error Packet) :=
  let packet := newUnchecked buffer
  packet.checkLen.map fun r => r.map fun _ => packet

/-! ## Setters -/

/-- `BigEndian::write_u16(&mut data[f], value.into())`, the setter of a code field. -/
def setCode {α : Type} [EnumWithUnknown α] (p : Packet) (f : Field) (value : α) :
    Option Packet :=
  (f.update p.buffer (BigEndian.writeU16 (toU16 value))).map Packet.mk

/-- `set_hardware_type`. -/
def setHardwareType (p : Packet) (value : Hardware) : Option Packet := p.setCode HTYPE value

/-- `set_protocol_type`. -/
def setProtocolType (p : Packet) (value : Protocol) : Option Packet := p.setCode PTYPE value

/-- `set_hardware_len`: `data[HLEN] = value`. -/
def setHardwareLen (p : Packet) (value : UInt8) : Option Packet :=
  (setAt p.buffer HLEN value).map Packet.mk

/-- `set_protocol_len`: `data[PLEN] = value`. -/
def setProtocolLen (p : Packet) (value : UInt8) : Option Packet :=
  (setAt p.buffer PLEN value).map Packet.mk

/-- `set_operation`. -/
def setOperation (p : Packet) (value : Operation) : Option Packet := p.setCode OPER value

/-- `data[layout(hardware_len, protocol_len)].copy_from_slice(value)`, the setter of an
address field; it panics unless `value` has the field's length. -/
def setAddr (p : Packet) (layout : UInt8 → UInt8 → Field) (value : List UInt8) :
    Option Packet :=
  p.hardwareLen.bind fun h => p.protocolLen.bind fun pl =>
    ((layout h pl).update p.buffer (copyFromSlice value)).map Packet.mk

/-- `set_source_hardware_addr`. -/
def setSourceHardwareAddr (p : Packet) (value : List UInt8) : Option Packet :=
  p.setAddr SHA value

/-- `set_source_protocol_addr`. -/
def setSourceProtocolAddr (p : Packet) (value : List UInt8) : Option Packet :=
  p.setAddr SPA value

/-- `set_target_hardware_addr`. -/
def setTargetHardwareAddr (p : Packet) (value : List UInt8) : Option Packet :=
  p.setAddr THA value

/-- `set_target_protocol_addr`. -/
def setTargetProtocolAddr (p : Packet) (value : List UInt8) : Option Packet :=
  p.setAddr TPA value

end Packet

/-- What the codec shows of a buffer: the result of each of its nine accessors. -/
structure View where
  hardwareType : Option Hardware
  protocolType : Option Protocol
  hardwareLen : Option UInt8
  protocolLen : Option UInt8
  operation : Option Operation
  sourceHardwareAddr : Option (List UInt8)
  sourceProtocolAddr : Option (List UInt8)
  targetHardwareAddr : Option (List UInt8)
  targetProtocolAddr : Option (List UInt8)
  deriving DecidableEq, Repr

/-- The nine accessors of a packet. -/
def Packet.view (p : Packet) : View :=
  ⟨p.hardwareType, p.protocolType, p.hardwareLen, p.protocolLen, p.operation,
    p.sourceHardwareAddr, p.sourceProtocolAddr, p.targetHardwareAddr, p.targetProtocolAddr⟩

/-- No accessor panics. -/
def View.Defined (v : View) : Prop :=
  v.hardwareType.isSome ∧ v.protocolType.isSome ∧ v.hardwareLen.isSome ∧
    v.protocolLen.isSome ∧ v.operation.isSome ∧ v.sourceHardwareAddr.isSome ∧
    v.sourceProtocolAddr.isSome ∧ v.targetHardwareAddr.isSome ∧ v.targetProtocolAddr.isSome

instance (v : View) : Decidable v.Defined := by unfold View.Defined; infer_instance

/-! ## The layout in numbers -/

section Layout

variable (h p : UInt8)

@[simp] theorem SHA_start : (SHA h p).start = 8 := rfl
@[simp] theorem SHA_stop : (SHA h p).stop = 8 + h.toNat := rfl
@[simp] theorem SPA_start : (SPA h p).start = 8 + h.toNat := rfl
@[simp] theorem SPA_stop : (SPA h p).stop = 8 + h.toNat + p.toNat := rfl
@[simp] theorem THA_start : (THA h p).start = 8 + h.toNat + p.toNat := rfl
@[simp] theorem THA_stop : (THA h p).stop = 8 + h.toNat + p.toNat + h.toNat := rfl
@[simp] theorem TPA_start : (TPA h p).start = 8 + h.toNat + p.toNat + h.toNat := rfl
@[simp] theorem TPA_stop : (TPA h p).stop = 8 + h.toNat + p.toNat + h.toNat + p.toNat := rfl

/-- The four address fields lie after the fixed header, whatever the lengths. -/
theorem layouts_start : 8 ≤ (SHA h p).start ∧ 8 ≤ (SPA h p).start ∧ 8 ≤ (THA h p).start ∧
    8 ≤ (TPA h p).start := by
  simp only [SHA_start, SPA_start, THA_start, TPA_start]; omega

@[simp] theorem HTYPE_start : HTYPE.start = 0 := rfl
@[simp] theorem HTYPE_stop : HTYPE.stop = 2 := rfl
@[simp] theorem PTYPE_start : PTYPE.start = 2 := rfl
@[simp] theorem PTYPE_stop : PTYPE.stop = 4 := rfl
@[simp] theorem OPER_start : OPER.start = 6 := rfl
@[simp] theorem OPER_stop : OPER.stop = 8 := rfl

end Layout

end LinkLayer.Arp
