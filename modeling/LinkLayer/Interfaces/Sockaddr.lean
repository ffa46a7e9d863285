import LinkLayer.Channel.Open

/-!
# Socket addresses in `network_interface.rs`

`get_interfaces` reads the address of each interface through `sockaddr_to_network_addr`.  For an
`AF_PACKET` address, that is the hardware address of the `sockaddr_ll`.  For any other family,
it is the IP address `sockaddr_to_addr` reads from a `sockaddr_in`.  Both read a
`sockaddr_storage` in memory: the family is in the byte order of the host, while the port and
the address of a `sockaddr_in` are in network order and pass through `ntohs` and `ipv4_addr`.

* `sockaddrToAddr_v4` — for every `sockaddr_in` with address bytes `[a, b, c, d]` and port
  bytes `[p0, p1]`, on both hosts, `sockaddr_to_addr` returns `a.b.c.d` and the port
  `p0 * 256 + p1` once `len` is at least the size of a `sockaddr_in`; below that its
  `assert!` panics.
* `sockaddrToNetworkAddr_isSome` — `sockaddr_to_network_addr` never panics, since it passes
  the size of a whole `sockaddr_storage`;
* `sockaddrToNetworkAddr_ipv4` — the IP address it reads is always an IPv4 one.
-/

namespace LinkLayer.Interfaces

open LinkLayer.Ether LinkLayer.DataLink

/-- `libc::AF_INET`. -/
def AF_INET : Int := 2

/-- `mem::size_of::<libc::sockaddr_storage>()`. -/
def sockaddrStorageSize : Nat := 128

/-- `mem::size_of::<libc::sockaddr_in>()`. -/
def sockaddrInSize : Nat := 16

/-- `sin_port` of a `sockaddr_in`: bytes `2..4`. -/
def sinPortField : Field := ⟨2, 4⟩

/-- `sin_addr` of a `sockaddr_in`: bytes `4..8`. -/
def sinAddrField : Field := ⟨4, 8⟩

/-- A `libc::sockaddr_storage` in memory, read through a pointer to any socket address. -/
structure SockaddrStorage where
  bytes : List UInt8
  size : bytes.length = sockaddrStorageSize
  deriving DecidableEq

/-- `libc::in_addr`. -/
structure InAddr where
  sAddr : UInt32
  deriving DecidableEq, Repr

namespace SockaddrStorage

variable (s : SockaddrStorage) (host : Endian)

/-- The byte at offset `i`: every field the code reads lies inside the storage. -/
def byte (i : Nat) (h : i < 128) : UInt8 := s.bytes.get ⟨i, by rw [s.size]; exact h⟩

/-- `ss_family`, which is also the `sa_family` of a `sockaddr`: bytes `0..2`, in host order. -/
def ssFamily : UInt16 := host.load16 (s.byte 0 (by decide)) (s.byte 1 (by decide))

/-- `sin_port` of the `sockaddr_in` the storage holds, as the host reads it. -/
def sinPort : UInt16 := host.load16 (s.byte 2 (by decide)) (s.byte 3 (by decide))

/-- `sin_addr` of the `sockaddr_in` the storage holds, as the host reads it. -/
def sinAddr : InAddr :=
  ⟨host.load32 (s.byte 4 (by decide)) (s.byte 5 (by decide)) (s.byte 6 (by decide))
    (s.byte 7 (by decide))⟩

/-- `sll_addr[0..6]` of the `sockaddr_ll` the storage holds: bytes `12..18`. -/
def sllAddr : MacAddr :=
  ⟨s.byte 12 (by decide), s.byte 13 (by decide), s.byte 14 (by decide), s.byte 15 (by decide),
    s.byte 16 (by decide), s.byte 17 (by decide)⟩

end SockaddrStorage

/-- `ntohs`: `u16::from_be`. -/
def ntohs (host : Endian) (u : UInt16) : UInt16 := fromBe16 host u

/-- `ipv4_addr`: `(addr.s_addr as u32).to_be()`. -/
def ipv4Addr (host : Endian) (addr : InAddr) : UInt32 := toBe32 host addr.sAddr

/-- `std::net::SocketAddrV4`. -/
structure SocketAddrV4 where
  ip : Ipv4Addr
  port : UInt16
  deriving DecidableEq, Repr

/-- `SocketAddrV4::new`. -/
def SocketAddrV4.new (ip : Ipv4Addr) (port : UInt16) : SocketAddrV4 := ⟨ip, port⟩

/-- `std::net::SocketAddrV6`, with the two fields a caller can read here. -/
structure SocketAddrV6 where
  ip : Ipv6Addr
  port : UInt16
  deriving DecidableEq, Repr

/-- `std::net::SocketAddr`. -/
inductive SocketAddr
  | v4 (sa : SocketAddrV4)
  | v6 (sa : SocketAddrV6)
  deriving DecidableEq, Repr

/-- `sockaddr_to_addr`.  The `AF_INET6` arm is commented out in the source, so every family
but `AF_INET` gives `InvalidData`; `none` is the panic of
`assert!(len as usize >= mem::size_of::<SockAddrIn>())`. -/
def sockaddrToAddr (host : Endian) (storage : SockaddrStorage) (len : Nat) :
    Option (Except IoError SocketAddr) :=
  if ((storage.ssFamily host).toNat : Int) = AF_INET then
    if len ≥ sockaddrInSize then
      let ip := ipv4Addr host (storage.sinAddr host)
      let a := (ip >>> 24).toUInt8
      let b := (ip >>> 16).toUInt8
      let c := (ip >>> 8).toUInt8
      let d := ip.toUInt8
      some (.ok (.v4 (SocketAddrV4.new (Ipv4Addr.new a b c d) (ntohs host (storage.sinPort host)))))
    else none
  else some (.error (.new .invalidData "expected IPv4 or IPv6 socket"))

/-- `sockaddr_to_network_addr`; `none` for `sa` is a null pointer, and `none` in the result a
panic of `sockaddr_to_addr`. -/
def sockaddrToNetworkAddr (host : Endian) (sa : Option SockaddrStorage) :
    Option (Option MacAddr × Option IpAddr) :=
  match sa with
  | none => some (none, none)
  | some sa =>
    if ((sa.ssFamily host).toNat : Int) = AF_PACKET then some (some sa.sllAddr, none)
    else
      (sockaddrToAddr host sa sockaddrStorageSize).map fun
        | .ok (.v4 sa) => (none, some (.v4 sa.ip))
        | .ok (.v6 sa) => (none, some (.v6 sa.ip))
        | .error _ => (none, none)

/-! ### Reading a `sockaddr_in` -/

namespace SockaddrStorage

variable (s : SockaddrStorage) (host : Endian)

/-- A field the storage holds has, at each of its offsets, the storage's byte there. -/
theorem byte_of_index {f : Field} {l : List UInt8} (h : f.index s.bytes = some l) (j : Nat)
    (hj : j < l.length) (i : Nat) (hij : f.start + j = i) (hi : i < 128) :
    s.byte i hi = l.get ⟨j, hj⟩ := by
  have hl := (Field.getElem?_of_index h j).symm
  rw [if_pos (Field.length_of_index h ▸ hj), hij, List.getElem?_eq_getElem hj] at hl
  exact Option.some_inj.1 ((List.getElem?_eq_getElem _).symm.trans hl)

theorem sinPort_eq {p0 p1 : UInt8} (h : sinPortField.index s.bytes = some [p0, p1]) :
    s.sinPort host = host.load16 p0 p1 := by
  rw [sinPort, s.byte_of_index h 0 (by simp) 2 rfl, s.byte_of_index h 1 (by simp) 3 rfl]
  rfl

theorem sinAddr_eq {a b c d : UInt8} (h : sinAddrField.index s.bytes = some [a, b, c, d]) :
    s.sinAddr host = ⟨host.load32 a b c d⟩ := by
  rw [sinAddr, s.byte_of_index h 0 (by simp) 4 rfl, s.byte_of_index h 1 (by simp) 5 rfl,
    s.byte_of_index h 2 (by simp) 6 rfl, s.byte_of_index h 3 (by simp) 7 rfl]
  rfl

end SockaddrStorage

/-- **`sockaddr_to_addr` undoes network byte order exactly once.**  For every `sockaddr_in`
whose address bytes in memory are `[a, b, c, d]` and whose port bytes are `[p0, p1]`, on a
little-endian and on a big-endian host alike: once `len` is at least the size of a
`sockaddr_in`, `sockaddr_to_addr` returns the IPv4 socket address `a.b.c.d` with the port
`p0 * 256 + p1`; below that, its `assert!` panics. -/
theorem sockaddrToAddr_v4 (host : Endian) (storage : SockaddrStorage) (len : Nat)
    (a b c d p0 p1 : UInt8) (hfam : ((storage.ssFamily host).toNat : Int) = AF_INET)
    (hport : sinPortField.index storage.bytes = some [p0, p1])
    (haddr : sinAddrField.index storage.bytes = some [a, b, c, d]) :
    (sockaddrInSize ≤ len → ∃ sa, sockaddrToAddr host storage len = some (.ok (.v4 sa)) ∧
      sa.ip = Ipv4Addr.new a b c d ∧ sa.port.toNat = p0.toNat * 256 + p1.toNat) ∧
    (len < sockaddrInSize → sockaddrToAddr host storage len = none) := by
  have hip : ipv4Addr host (storage.sinAddr host) = beU32 a b c d := by
    rw [ipv4Addr, storage.sinAddr_eq host haddr, toBe32_load32]
  refine ⟨fun hlen => ?_, fun hlen => ?_⟩
  · rw [sockaddrToAddr, if_pos hfam, if_pos hlen]
    refine ⟨_, rfl, ?_, ?_⟩
    · simp only [SocketAddrV4.new, hip, beU32_shiftRight_24, beU32_shiftRight_16,
        beU32_shiftRight_8, beU32_toUInt8]
    · rw [SocketAddrV4.new, ntohs, storage.sinPort_eq host hport, fromBe16_load16, toNat_beU16]
  · rw [sockaddrToAddr, if_pos hfam, if_neg (Nat.not_le.2 hlen)]

/-- `192.168.0.1:8080` as a little-endian host lays out its `sockaddr_in`, at the start of a
zeroed `sockaddr_storage`. -/
def sockaddrIn8080 : SockaddrStorage :=
  ⟨[2, 0, 0x1f, 0x90, 192, 168, 0, 1] ++ List.replicate 120 0, by simp [sockaddrStorageSize]⟩

set_option maxRecDepth 2000 in
theorem sockaddrToAddr_v4_8080 :
    ∃ sa, sockaddrToAddr .little sockaddrIn8080 sockaddrStorageSize = some (.ok (.v4 sa)) ∧
      sa.ip = Ipv4Addr.new 192 168 0 1 ∧
      sa.port.toNat = (0x1f : UInt8).toNat * 256 + (0x90 : UInt8).toNat :=
  (sockaddrToAddr_v4 .little sockaddrIn8080 sockaddrStorageSize 192 168 0 1 0x1f 0x90 rfl
    rfl rfl).1 (by decide)

set_option maxRecDepth 2000 in
theorem sockaddrToAddr_short_len_panics :
    ((sockaddrIn8080.ssFamily .little).toNat : Int) = AF_INET ∧
      sinPortField.index sockaddrIn8080.bytes = some [0x1f, 0x90] ∧
      sinAddrField.index sockaddrIn8080.bytes = some [192, 168, 0, 1] ∧
      sockaddrToAddr .little sockaddrIn8080 8 = none :=
  ⟨rfl, rfl, rfl, rfl⟩

/-- With a `len` that covers a `sockaddr_in`, `sockaddr_to_addr` returns. -/
theorem sockaddrToAddr_isSome (host : Endian) (storage : SockaddrStorage) {len : Nat}
    (h : sockaddrInSize ≤ len) : (sockaddrToAddr host storage len).isSome := by
  unfold sockaddrToAddr
  by_cases hfam : ((storage.ssFamily host).toNat : Int) = AF_INET
  · rw [if_pos hfam, if_pos h]; rfl
  · rw [if_neg hfam]; rfl

/-- `sockaddr_to_network_addr` never panics: it passes `sockaddr_to_addr` the size of a whole
`sockaddr_storage`, more than the `sockaddr_in` its `assert!` asks for. -/
theorem sockaddrToNetworkAddr_isSome (host : Endian) (sa : Option SockaddrStorage) :
    (sockaddrToNetworkAddr host sa).isSome := by
  unfold sockaddrToNetworkAddr
  split
  · rfl
  · split
    · rfl
    · rw [Option.isSome_map']
      exact sockaddrToAddr_isSome host _ (by decide)

/-- `sockaddr_to_addr` never returns an IPv6 address: its `AF_INET6` arm is commented out. -/
theorem sockaddrToAddr_ne_v6 (host : Endian) (storage : SockaddrStorage) (len : Nat)
    (sa : SocketAddrV6) : sockaddrToAddr host storage len ≠ some (.ok (.v6 sa)) := by
  unfold sockaddrToAddr
  split
  · split
    · exact fun h => nomatch Except.ok.inj (Option.some.inj h)
    · exact nofun
  · exact nofun

/-- The IP address `sockaddr_to_network_addr` reads, if any, is an IPv4 one. -/
theorem sockaddrToNetworkAddr_ipv4 {host : Endian} {sa : Option SockaddrStorage}
    {mac : Option MacAddr} {ip : IpAddr} (h : sockaddrToNetworkAddr host sa = some (mac, some ip)) :
    ∃ v4, ip = .v4 v4 := by
  unfold sockaddrToNetworkAddr at h
  split at h
  · cases h
  · split at h
    · cases h
    · obtain ⟨res, hres, hmap⟩ := Option.map_eq_some'.1 h
      rcases res with _ | sa4 | sa6
      · cases hmap
      · cases hmap
        exact ⟨_, rfl⟩
      · exact absurd hres (sockaddrToAddr_ne_v6 host _ _ sa6)

end LinkLayer.Interfaces
