import Mathlib.Data.List.Basic
import Mathlib.Algebra.Group.Nat.Basic

/-!
# Byte buffers, Rust ranges and big-endian `u16`

Both codecs of the crate read and write fixed-offset fields of a byte buffer.  A buffer is a
`List UInt8`; a field is a `core::ops::Range<usize>` (`Field`).  Indexing follows Rust:
`&data[r]` and `data[i] = v` panic out of bounds, and a panic is `none` here.  Writing a
field is `Field.update`: slice, rewrite the slice, splice it back.

`u16` fields are big-endian.  `beU16` is the decoding expression of the Ethernet getters,
`((b0 as u16) << 8) | b1 as u16`, and `BigEndian.readU16`/`BigEndian.writeU16` are the
`byteorder` calls of the ARP codec.  The facts the codecs need are:

* `Field.index_congr` — a slice depends only on the bytes inside its range;
* `Field.update_eq`, `getElem?_update`, `Field.index_update_self` — what a write changes;
* `toNat_beU16`, `beU16_bytes` — the two directions of the `u16` byte round trip.

Fields of C structures, such as the port and address of a `sockaddr_in`, are instead read in
the byte order of the host (`Endian.load16`, `Endian.load32`) and converted with `to_be` or
`from_be`:

* `fromBe16_load16`, `toBe32_load32` — on either host, the conversion undoes the load and
  gives the big-endian value of the field's bytes.
-/

namespace LinkLayer

/-- `core::ops::Range<usize>`: the bytes `start..stop` (Rust's `start..end`). -/
structure Field where
  start : Nat
  stop : Nat
  deriving DecidableEq, Repr

namespace Field

/-- The number of bytes of a range. -/
def len (r : Field) : Nat := r.stop - r.start

/-- The range is a valid index into a buffer of `n` bytes. -/
def Fits (r : Field) (n : Nat) : Prop := r.start ≤ r.stop ∧ r.stop ≤ n

instance (r : Field) (n : Nat) : Decidable (r.Fits n) :=
  inferInstanceAs (Decidable (_ ∧ _))

/-- `&data[r]`; `none` where Rust panics (`start > end` or `end > data.len()`). -/
def index (r : Field) (data : List UInt8) : Option (List UInt8) :=
  if r.Fits data.length then some ((data.drop r.start).take r.len) else none

/-- `f(&mut data[r])` for an `f` that rewrites the slice in place: the slice is taken,
rewritten, and spliced back.  Panics if the index or `f` panics. -/
def update (r : Field) (data : List UInt8) (f : List UInt8 → Option (List UInt8)) :
    Option (List UInt8) :=
  (r.index data).bind fun old => (f old).map fun new => data.take r.start ++ new ++ data.drop r.stop

end Field

/-- `dst.copy_from_slice(src)`; panics unless the two slices have the same length. -/
def copyFromSlice (src dst : List UInt8) : Option (List UInt8) :=
  if dst.length = src.length then some src else none

/-- `data[i] = v`; panics when `i` is out of bounds. -/
def setAt (data : List UInt8) (i : Nat) (v : UInt8) : Option (List UInt8) :=
  if i < data.length then some (data.set i v) else none

/-- A big-endian `u16` from its two bytes: `((hi as u16) << 8) | lo as u16`. -/
def beU16 (hi lo : UInt8) : UInt16 := (hi.toUInt16 <<< 8) ||| lo.toUInt16

namespace BigEndian

/-- `BigEndian::read_u16`: the first two bytes, most significant first.  Panics on a slice
shorter than two bytes. -/
def readU16 : List UInt8 → Option UInt16
  | hi :: lo :: _ => some (beU16 hi lo)
  | _ => none

/-- `BigEndian::write_u16`: `n` over the first two bytes.  Panics on a short slice. -/
def writeU16 (n : UInt16) : List UInt8 → Option (List UInt8)
  | _ :: _ :: rest => some ((n >>> 8).toUInt8 :: n.toUInt8 :: rest)
  | _ => none

end BigEndian

/-- The byte order of the host. -/
inductive Endian
  | little
  | big
  deriving DecidableEq, Repr

/-- `u16::to_be` (`htons`) on a host of byte order `e`: a byte swap on a little-endian
host, the identity on a big-endian one. -/
def toBe16 : Endian → UInt16 → UInt16
  | .little, x => (x <<< 8) ||| (x >>> 8)
  | .big, x => x

/-- `u16::from_be` (`ntohs`): the same swap as `to_be`. -/
def fromBe16 : Endian → UInt16 → UInt16
  | .little, x => (x <<< 8) ||| (x >>> 8)
  | .big, x => x

/-- The `u32` whose bytes, most significant first, are `b0 b1 b2 b3`. -/
def beU32 (b0 b1 b2 b3 : UInt8) : UInt32 :=
  UInt32.ofNat (((b0.toNat * 256 + b1.toNat) * 256 + b2.toNat) * 256 + b3.toNat)

/-- `u32::swap_bytes`: the four bytes of `x` in the other order. -/
def swapBytes32 (x : UInt32) : UInt32 :=
  beU32 x.toUInt8 (x >>> 8).toUInt8 (x >>> 16).toUInt8 (x >>> 24).toUInt8

/-- `u32::to_be` on a host of byte order `e`. -/
def toBe32 : Endian → UInt32 → UInt32
  | .little, x => swapBytes32 x
  | .big, x => x

/-- A `u16` field read from its bytes `b0 b1` in memory, on a host of byte order `e`. -/
def Endian.load16 : Endian → UInt8 → UInt8 → UInt16
  | .little, b0, b1 => beU16 b1 b0
  | .big, b0, b1 => beU16 b0 b1

/-- A `u32` field read from its bytes `b0 b1 b2 b3` in memory, on a host of byte order `e`. -/
def Endian.load32 : Endian → UInt8 → UInt8 → UInt8 → UInt8 → UInt32
  | .little, b0, b1, b2, b3 => beU32 b3 b2 b1 b0
  | .big, b0, b1, b2, b3 => beU32 b0 b1 b2 b3

/-! ## Slices and writes -/

namespace Field

variable {r : Field} {data : List UInt8}

theorem index_eq (h : r.Fits data.length) :
    r.index data = some ((data.drop r.start).take r.len) := if_pos h

theorem index_eq_none (h : ¬ r.Fits data.length) : r.index data = none := if_neg h

@[simp] theorem index_isSome : (r.index data).isSome ↔ r.Fits data.length := by
  by_cases h : r.Fits data.length <;> simp [index, h]

theorem length_of_index {s : List UInt8} (h : r.index data = some s) : s.length = r.len := by
  unfold index at h
  split at h
  · cases h; simp only [len, Fits] at *; simp; omega
  · cases h

theorem getElem?_of_index {s : List UInt8} (h : r.index data = some s) (j : Nat) :
    s[j]? = if j < r.len then data[r.start + j]? else none := by
  unfold index at h
  split at h
  · cases h; simp [List.getElem?_take, List.getElem?_drop]
  · cases h

/-- Two buffers with the same slice at `r` agree on every byte of `r`. -/
theorem getElem?_eq_of_index_eq {data' s : List UInt8} (h : r.index data = some s)
    (h' : r.index data' = some s) {i : Nat} (h1 : r.start ≤ i) (h2 : i < r.stop) :
    data[i]? = data'[i]? := by
  have e := (getElem?_of_index h (i - r.start)).symm.trans (getElem?_of_index h' (i - r.start))
  simp only [len, show i - r.start < r.stop - r.start by omega, if_true,
    show r.start + (i - r.start) = i by omega] at e
  exact e

/-- The slice of a two-byte range. -/
theorem index_two (hf : r.Fits data.length) (h2 : r.len = 2) :
    r.index data = some [data.getD r.start 0, data.getD (r.start + 1) 0] := by
  have h0 : r.start < data.length := by simp only [Fits, len] at *; omega
  have h1 : r.start + 1 < data.length := by simp only [Fits, len] at *; omega
  rw [index_eq hf, h2, List.drop_eq_getElem_cons h0, List.drop_eq_getElem_cons h1,
    List.getD_eq_getElem?_getD, List.getD_eq_getElem?_getD, List.getElem?_eq_getElem h0,
    List.getElem?_eq_getElem h1]
  rfl

/-- **Framing of slices.**  A slice depends only on the buffer's length and on the bytes
inside its range. -/
theorem index_congr {data' : List UInt8} (hlen : data.length = data'.length)
    (h : ∀ i, r.start ≤ i → i < r.stop → data[i]? = data'[i]?) :
    r.index data = r.index data' := by
  unfold index
  rw [hlen]
  split
  · congr 1
    apply List.ext_getElem?
    intro j
    simp only [List.getElem?_take, List.getElem?_drop]
    split
    · exact h _ (by omega) (by simp only [len] at *; omega)
    · rfl
  · rfl

theorem update_eq {f : List UInt8 → Option (List UInt8)} {new : List UInt8}
    (hr : r.Fits data.length) (hf : f ((data.drop r.start).take r.len) = some new) :
    r.update data f = some (data.take r.start ++ new ++ data.drop r.stop) := by
  simp [update, index_eq hr, hf]

theorem update_eq_none (hr : ¬ r.Fits data.length) (f : List UInt8 → Option (List UInt8)) :
    r.update data f = none := by
  simp [update, index_eq_none hr]

end Field

section Splice

variable {data new : List UInt8} {a b : Nat}

theorem length_splice (hab : a ≤ b) (hb : b ≤ data.length) (hn : new.length = b - a) :
    (data.take a ++ new ++ data.drop b).length = data.length := by
  simp only [List.length_append, List.length_take, List.length_drop]
  omega

/-- The bytes of a splice: the old buffer outside `a..b`, the new slice inside. -/
theorem getElem?_splice (hab : a ≤ b) (hb : b ≤ data.length) (hn : new.length = b - a)
    (i : Nat) :
    (data.take a ++ new ++ data.drop b)[i]? =
      if i < a then data[i]? else if i < b then new[i - a]? else data[i]? := by
  have hta : (data.take a).length = a := by simp; omega
  rw [List.append_assoc]
  split
  · rw [List.getElem?_append_left (by omega), List.getElem?_take_of_lt ‹_›]
  · rw [List.getElem?_append_right (by omega), hta]
    split
    · rw [List.getElem?_append_left (by omega)]
    · rw [List.getElem?_append_right (by omega), List.getElem?_drop, hn]
      congr 1
      omega

end Splice

/-- A write through `update` that keeps the slice's length changes the buffer only inside
the range, and leaves its length alone. -/
theorem getElem?_update {r : Field} {data out new : List UInt8}
    {f : List UInt8 → Option (List UInt8)}
    (hr : r.Fits data.length) (hf : f ((data.drop r.start).take r.len) = some new)
    (hn : new.length = r.len) (h : r.update data f = some out) (i : Nat) :
    out[i]? = if r.start ≤ i ∧ i < r.stop then new[i - r.start]? else data[i]? := by
  rw [Field.update_eq hr hf] at h
  cases h
  rw [getElem?_splice hr.1 hr.2 hn]
  by_cases h1 : i < r.start
  · rw [if_pos h1, if_neg (by omega)]
  · by_cases h2 : i < r.stop
    · rw [if_neg h1, if_pos h2, if_pos ⟨by omega, h2⟩]
    · rw [if_neg h1, if_neg h2, if_neg (by omega)]

theorem length_update {r : Field} {data out new : List UInt8}
    {f : List UInt8 → Option (List UInt8)}
    (hr : r.Fits data.length) (hf : f ((data.drop r.start).take r.len) = some new)
    (hn : new.length = r.len) (h : r.update data f = some out) :
    out.length = data.length := by
  rw [Field.update_eq hr hf] at h
  cases h
  exact length_splice hr.1 hr.2 hn

/-- Reading a range back after writing it returns what was written. -/
theorem Field.index_update_self {r : Field} {data out new : List UInt8}
    {f : List UInt8 → Option (List UInt8)}
    (hr : r.Fits data.length) (hf : f ((data.drop r.start).take r.len) = some new)
    (hn : new.length = r.len) (h : r.update data f = some out) :
    r.index out = some new := by
  have hlen := length_update hr hf hn h
  rw [Field.index_eq (by rwa [hlen])]
  congr 1
  apply List.ext_getElem?
  intro j
  simp only [List.getElem?_take, List.getElem?_drop, getElem?_update hr hf hn h]
  by_cases hj : j < r.len
  · simp [hj, show r.start ≤ r.start + j ∧ r.start + j < r.stop by
      simp only [Field.len] at hj; omega]
  · simp [hj, List.getElem?_eq_none (by omega : new.length ≤ j)]

/-- A write to one range leaves every range disjoint from it as it was. -/
theorem Field.index_update_disjoint {r s : Field} {data out new : List UInt8}
    {f : List UInt8 → Option (List UInt8)}
    (hr : r.Fits data.length) (hf : f ((data.drop r.start).take r.len) = some new)
    (hn : new.length = r.len) (h : r.update data f = some out)
    (hd : s.stop ≤ r.start ∨ r.stop ≤ s.start) :
    s.index out = s.index data := by
  refine Field.index_congr (length_update hr hf hn h) fun i h1 h2 => ?_
  rw [getElem?_update hr hf hn h, if_neg (by omega)]

theorem copyFromSlice_eq {src dst : List UInt8} (h : dst.length = src.length) :
    copyFromSlice src dst = some src := if_pos h

/-! ## The `u16` byte round trip -/

theorem toNat_toUInt16 (a : UInt8) : a.toUInt16.toNat = a.toNat := by
  simp [UInt8.toUInt16, UInt16.toNat, UInt16.ofNat, UInt8.toNat]

theorem toNat_toUInt8 (v : UInt16) : v.toUInt8.toNat = v.toNat % 256 := by
  simp [UInt16.toUInt8, UInt8.toNat, UInt8.ofNat, UInt16.toNat]

theorem toNat_shiftRight_eight (v : UInt16) : (v >>> 8).toNat = v.toNat / 256 := by
  show (v.toBitVec >>> (UInt16.mod 8 16).toBitVec).toNat = _
  rw [BitVec.ushiftRight_eq', BitVec.toNat_ushiftRight, Nat.shiftRight_eq_div_pow]; rfl

theorem toNat_shiftLeft_eight (v : UInt16) : (v <<< 8).toNat = v.toNat * 256 % 65536 := by
  show (v.toBitVec <<< (UInt16.mod 8 16).toBitVec).toNat = _
  rw [BitVec.shiftLeft_eq', BitVec.toNat_shiftLeft, Nat.shiftLeft_eq]; rfl

theorem toNat_or (a b : UInt16) : (a ||| b).toNat = a.toNat ||| b.toNat := by
  show (a.toBitVec ||| b.toBitVec).toNat = _
  rw [BitVec.toNat_or]; rfl

private theorem testBit_65280 (i : Nat) :
    Nat.testBit 65280 i = (decide (i < 16) && !decide (i < 8)) := by
  have h255 : Nat.testBit 255 i = decide (i < 8) := by
    simpa using Nat.testBit_two_pow_sub_one 8 i
  simpa [h255] using Nat.testBit_two_pow_sub_succ (x := 255) (n := 16) (by decide) i

/-- Masking with `0xFF00` before the shift, as `set_ethertype` does, changes nothing. -/
theorem and_65280_shiftRight (v : UInt16) : (v &&& 65280) >>> 8 = v >>> 8 := by
  apply UInt16.toNat.inj
  have hv : v.toNat < 2 ^ 16 := v.toNat_lt_size
  show ((v &&& 65280).toBitVec >>> (UInt16.mod 8 16).toBitVec).toNat =
    (v.toBitVec >>> (UInt16.mod 8 16).toBitVec).toNat
  simp only [BitVec.ushiftRight_eq', BitVec.toNat_ushiftRight]
  show (v &&& 65280).toNat >>> 8 = v.toNat >>> 8
  rw [UInt16.and_toNat, show (65280 : UInt16).toNat = 65280 from rfl]
  apply Nat.eq_of_testBit_eq
  intro i
  simp only [Nat.testBit_shiftRight, Nat.testBit_and, testBit_65280]
  by_cases hi : 8 + i < 16
  · simp [hi]
  · have hbit : v.toNat.testBit (8 + i) = false :=
      Nat.testBit_lt_two_pow (lt_of_lt_of_le hv (Nat.pow_le_pow_right (by decide) (by omega)))
    simp [hi, hbit]

/-- The value of a big-endian `u16`. -/
theorem toNat_beU16 (hi lo : UInt8) : (beU16 hi lo).toNat = hi.toNat * 256 + lo.toNat := by
  have hh : hi.toNat < 256 := hi.toNat_lt_size
  have hl : lo.toNat < 2 ^ 8 := lo.toNat_lt_size
  rw [beU16, toNat_or, toNat_shiftLeft_eight, toNat_toUInt16, toNat_toUInt16,
    Nat.mod_eq_of_lt (by omega), Nat.mul_comm, ← Nat.mul_add_lt_is_or hl]

/-- Decoding the two bytes of a `u16` gives the `u16` back. -/
@[simp] theorem beU16_bytes (v : UInt16) : beU16 (v >>> 8).toUInt8 v.toUInt8 = v := by
  apply UInt16.toNat.inj
  have hv : v.toNat < 65536 := v.toNat_lt_size
  rw [toNat_beU16, toNat_toUInt8, toNat_toUInt8, toNat_shiftRight_eight]
  omega

/-- The high byte of a decoded `u16` is its first byte. -/
@[simp] theorem beU16_hi (hi lo : UInt8) : (beU16 hi lo >>> 8).toUInt8 = hi := by
  apply UInt8.toNat.inj
  have hl : lo.toNat < 256 := lo.toNat_lt_size
  have hh : hi.toNat < 256 := hi.toNat_lt_size
  rw [toNat_toUInt8, toNat_shiftRight_eight, toNat_beU16]
  omega

/-- The low byte of a decoded `u16` is its second byte. -/
@[simp] theorem beU16_lo (hi lo : UInt8) : (beU16 hi lo).toUInt8 = lo := by
  apply UInt8.toNat.inj
  have hl : lo.toNat < 256 := lo.toNat_lt_size
  rw [toNat_toUInt8, toNat_beU16]
  omega

/-! ## Host byte order -/

/-- Swapping the bytes of a decoded `u16` decodes them the other way round. -/
theorem swap_beU16 (hi lo : UInt8) : (beU16 hi lo <<< 8) ||| (beU16 hi lo >>> 8) = beU16 lo hi := by
  apply UInt16.toNat.inj
  have hh : hi.toNat < 2 ^ 8 := hi.toNat_lt_size
  have hl : lo.toNat < 256 := lo.toNat_lt_size
  rw [toNat_or, toNat_shiftLeft_eight, toNat_shiftRight_eight, toNat_beU16, toNat_beU16,
    show (hi.toNat * 256 + lo.toNat) * 256 % 65536 = 2 ^ 8 * lo.toNat by omega,
    show (hi.toNat * 256 + lo.toNat) / 256 = hi.toNat by omega, ← Nat.mul_add_lt_is_or hh]
  omega

/-- **`ntohs` undoes the byte order of the host**: a `u16` field read from memory and passed
through `from_be` is the big-endian value of its bytes, on either host. -/
theorem fromBe16_load16 (host : Endian) (b0 b1 : UInt8) :
    fromBe16 host (host.load16 b0 b1) = beU16 b0 b1 := by
  cases host
  · exact swap_beU16 b1 b0
  · rfl

theorem toNat_beU32 (b0 b1 b2 b3 : UInt8) :
    (beU32 b0 b1 b2 b3).toNat =
      ((b0.toNat * 256 + b1.toNat) * 256 + b2.toNat) * 256 + b3.toNat := by
  have h0 : b0.toNat < 256 := b0.toNat_lt_size
  have h1 : b1.toNat < 256 := b1.toNat_lt_size
  have h2 : b2.toNat < 256 := b2.toNat_lt_size
  have h3 : b3.toNat < 256 := b3.toNat_lt_size
  exact UInt32.toNat_ofNat_of_lt (by show _ < 4294967296; omega)

theorem toNat_u32_toUInt8 (v : UInt32) : v.toUInt8.toNat = v.toNat % 256 := by
  simp [UInt32.toUInt8, UInt8.toNat, UInt8.ofNat, UInt32.toNat]

theorem toNat_u32_shiftRight (v k : UInt32) (hk : k.toNat < 32) :
    (v >>> k).toNat = v.toNat / 2 ^ k.toNat := by
  show (v.toBitVec >>> (UInt32.mod k 32).toBitVec).toNat = _
  rw [BitVec.ushiftRight_eq', BitVec.toNat_ushiftRight, Nat.shiftRight_eq_div_pow]
  congr 2
  show (k.toBitVec % (32 : UInt32).toBitVec).toNat = _
  rw [BitVec.toNat_umod]
  exact Nat.mod_eq_of_lt hk

section Bytes32

variable (b0 b1 b2 b3 : UInt8)

/-- The four bytes of a `u32` field are below `256`: what `omega` needs to read its digits. -/
private theorem toNat_bytes_lt :
    b0.toNat < 256 ∧ b1.toNat < 256 ∧ b2.toNat < 256 ∧ b3.toNat < 256 :=
  ⟨b0.toNat_lt_size, b1.toNat_lt_size, b2.toNat_lt_size, b3.toNat_lt_size⟩

@[simp] theorem beU32_toUInt8 : (beU32 b0 b1 b2 b3).toUInt8 = b3 := by
  apply UInt8.toNat.inj
  have := toNat_bytes_lt b0 b1 b2 b3
  rw [toNat_u32_toUInt8, toNat_beU32]
  omega

@[simp] theorem beU32_shiftRight_8 : (beU32 b0 b1 b2 b3 >>> 8).toUInt8 = b2 := by
  apply UInt8.toNat.inj
  have := toNat_bytes_lt b0 b1 b2 b3
  rw [toNat_u32_toUInt8, toNat_u32_shiftRight _ _ (by decide), toNat_beU32]
  show _ / 256 % 256 = _
  omega

@[simp] theorem beU32_shiftRight_16 : (beU32 b0 b1 b2 b3 >>> 16).toUInt8 = b1 := by
  apply UInt8.toNat.inj
  have := toNat_bytes_lt b0 b1 b2 b3
  rw [toNat_u32_toUInt8, toNat_u32_shiftRight _ _ (by decide), toNat_beU32]
  show _ / 65536 % 256 = _
  omega

@[simp] theorem beU32_shiftRight_24 : (beU32 b0 b1 b2 b3 >>> 24).toUInt8 = b0 := by
  apply UInt8.toNat.inj
  have := toNat_bytes_lt b0 b1 b2 b3
  rw [toNat_u32_toUInt8, toNat_u32_shiftRight _ _ (by decide), toNat_beU32]
  show _ / 16777216 % 256 = _
  omega

theorem swapBytes32_beU32 : swapBytes32 (beU32 b0 b1 b2 b3) = beU32 b3 b2 b1 b0 := by
  simp only [swapBytes32, beU32_toUInt8, beU32_shiftRight_8, beU32_shiftRight_16,
    beU32_shiftRight_24]

/-- **`to_be` undoes the byte order of the host**: a `u32` field read from memory and passed
through `to_be` is the big-endian value of its bytes, on either host. -/
theorem toBe32_load32 (host : Endian) :
    toBe32 host (host.load32 b0 b1 b2 b3) = beU32 b0 b1 b2 b3 := by
  cases host
  · exact swapBytes32_beU32 b3 b2 b1 b0
  · rfl

end Bytes32

end LinkLayer
