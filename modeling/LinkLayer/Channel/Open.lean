import LinkLayer.Channel.Host

/-!
# Opening a channel

`channel` opens an `AF_PACKET` socket, binds it to the interface, asks for promiscuous
membership, makes it non-blocking, and on success hands the one descriptor to a sender and a
receiver half, each with its own `fd_set` holding the descriptor and its own timeout.  A
failing step closes the socket and returns that step's OS error.  Building the halves can still
panic: `FD_SET` indexes an array of `FD_SETSIZE` bits, and `Vec` takes at most `isize::MAX`
bytes; the unwinding then closes the socket through the `Arc<FileDesc>`.

* `channel_eq_ok` — everything an `Ok` of `channel` implies; the lemmas about open channels
  follow from it;
* `channel_result` — for every combination of host answers, `channel` returns `Ok` exactly when
  the four calls succeed and the descriptor and buffer sizes fit; an error is the first failing
  call's; after an error or a panic the open descriptors are as before; on success both halves
  hold the one new descriptor;
* `channel_socket_args` — whatever the configured channel type, the socket is opened as
  `SOCK_RAW` for every ethertype, and bound with that protocol to `ni.index as i32`: the first
  arm of the `match config.channel_type` is a binding that catches `Layer3` too.
* `durationToTimespec_exact_iff` — the stored timeouts are exact and valid exactly for
  durations below `2 ^ 63` seconds; longer ones wrap to a negative `tv_sec`.
-/

namespace LinkLayer.DataLink

open LinkLayer.Ether

/-- `ChannelType`. -/
inductive ChannelType
  | layer2
  | layer3 (ethertype : EtherType)
  deriving DecidableEq, Repr

/-- `Config`. -/
structure Config where
  writeBufferSize : Nat
  readBufferSize : Nat
  readTimeout : Option Duration
  writeTimeout : Option Duration
  channelType : ChannelType

/-- `Config::default()`. -/
def Config.default : Config :=
  { writeBufferSize := 4096, readBufferSize := 4096, readTimeout := none, writeTimeout := none,
    channelType := .layer2 }

/-- `NetworkInterface`.  The channel reads `index` and `mac`; `get_interfaces` builds all
five fields. -/
structure NetworkInterface where
  name : String
  index : UInt32
  mac : Option MacAddr
  ips : Option (List IpAddr)
  flags : UInt32
  deriving DecidableEq, Repr

/-- `network_addr_to_sockaddr`: fill a link-layer address for `ni` and the protocol `proto`
into `storage`, and return it with its size.  `host` is the byte order of the machine, which
`to_be()` depends on. -/
def networkAddrToSockaddr (host : Endian) (ni : NetworkInterface) (storage : SockaddrLl)
    (proto : Int) : SockaddrLl × Nat :=
  let sll := { storage with sllFamily := AF_PACKET.toNat.toUInt16 }
  let sll := (match ni.mac with
    | some ⟨a, b, c, d, e, f⟩ => { sll with sllAddr := [a, b, c, d, e, f, 0, 0] }
    | none => sll)
  ({ sll with
      sllProtocol := toBe16 host (proto % 65536).toNat.toUInt16, sllHalen := 6,
      sllIfindex := signedCast 32 ni.index.toNat }, sockaddrLlSize)

/-- `DataLinkSenderImpl`; `socket` is the descriptor its `Arc<FileDesc>` holds. -/
structure DataLinkSenderImpl where
  socket : Nat
  fdSet : FdSet
  writeBuffer : List UInt8
  channelType : ChannelType
  sendAddr : SockaddrLl
  sendAddrLen : Nat
  timeout : Option Timespec

/-- `DataLinkReceiverImpl`; `socket` is the descriptor its `Arc<FileDesc>` holds. -/
structure DataLinkReceiverImpl where
  socket : Nat
  fdSet : FdSet
  readBuffer : List UInt8
  channelType : ChannelType
  timeout : Option Timespec

/-- `Channel`. -/
inductive Channel
  | ethernet (sender : DataLinkSenderImpl) (receiver : DataLinkReceiverImpl)
  | pleaseIncludeACatchAllVariantWhenMatchingOnThisEnum

/-- The `match config.channel_type` at the top of `channel`.  Its first arm is written
`Layer2 =>`, without the `ChannelType::` path; no variant of that name is in scope there, so
the arm is a binding that matches every channel type, and the arm for
`ChannelType::Layer3(EtherType(proto))` after it is never reached. -/
def socketTypeAndProtocol (config : Config) : Int × UInt16 :=
  let ethPAll : UInt16 := 0x0003
  match config.channelType with
  | _layer2 => (SOCK_RAW, ethPAll)

/-- The socket type and protocol the configuration documents: raw frames of every ethertype
for `Layer2`, cooked packets of the one ethertype for `Layer3`. -/
def documentedSocketTypeAndProtocol (config : Config) : Int × UInt16 :=
  match config.channelType with
  | .layer2 => (SOCK_RAW, 0x0003)
  | .layer3 ⟨proto⟩ => (SOCK_DGRAM, proto)

/-- The host's answers to the four calls that open a channel. -/
structure SetupAnswers where
  socket : Answer Nat
  bind : Answer Nat
  setsockopt : Answer Nat
  fcntl : Answer Nat

/-! ### Building the halves -/

/-- `FD_SETSIZE`: an `fd_set` is an array of `16` words of `64` bits. -/
def FD_SETSIZE : Nat := 1024

/-- `isize::MAX` on a 64-bit target: the most bytes a `Vec<u8>` may hold. -/
def isizeMax : Nat := 2 ^ 63 - 1

/-- `libc::FD_ZERO`. -/
def FD_ZERO : FdSet := []

/-- `libc::FD_SET(fd, set)`: set bit `fd % 64` of the word `fds_bits[fd / 64]`.  The array
has `FD_SETSIZE / 64` words, so from `fd = FD_SETSIZE` on the index is out of bounds and Rust
panics (`none`). -/
def FD_SET (fd : Nat) (set : FdSet) : Option FdSet :=
  if fd < FD_SETSIZE then some (set.insert fd) else none

/-- `repeat(0u8).take(n).collect::<Vec<u8>>()`: the iterator reports its exact length, so
`Vec` reserves the `n` bytes at once and panics with a capacity overflow above `isize::MAX`
(`none`). -/
def repeatTakeCollect (n : Nat) : Option (List UInt8) :=
  if n ≤ isizeMax then some (List.replicate n 0) else none

/-- The end of `channel`, once the four calls have succeeded: the sender with its
`write_buffer`, then its `FD_ZERO` and `FD_SET`, then the receiver the same way.  `none` is a
panic on the way. -/
def channelHalves (config : Config) (socket : Nat) (addr : SockaddrLl) (len : Nat) :
    Option Channel := do
  let writeBuffer ← repeatTakeCollect config.writeBufferSize
  let senderSet ← FD_SET socket FD_ZERO
  let readBuffer ← repeatTakeCollect config.readBufferSize
  let receiverSet ← FD_SET socket FD_ZERO
  return .ethernet
    { socket, fdSet := senderSet, writeBuffer, channelType := config.channelType,
      sendAddr := addr, sendAddrLen := len,
      timeout := config.writeTimeout.map Internal.durationToTimespec }
    { socket, fdSet := receiverSet, readBuffer, channelType := config.channelType,
      timeout := config.readTimeout.map Internal.durationToTimespec }

/-- `channel`: open, bind and configure the socket, closing it again when a step fails. -/
def channel (host : Endian) (ni : NetworkInterface) (config : Config) (answers : SetupAnswers)
    (os : Os) : Exit (Except IoError Channel) × Os :=
  let (typ, proto) := socketTypeAndProtocol config
  match os.socket AF_PACKET typ (toBe16 host proto).toNat answers.socket with
  | (.fail errno, os) => (.returns (.error (.os errno)), os)
  | (.ok socket, os) =>
    let (addr, len) := networkAddrToSockaddr host ni SockaddrLl.zeroed proto.toNat
    let os := os.record (.bind socket addr len)
    match answers.bind with
    | .fail errno => (.returns (.error (.os errno)), os.close socket)
    | .ok _ =>
      let pmr : PacketMreq := { PacketMreq.zeroed with
        mrIfindex := signedCast 32 ni.index.toNat, mrType := PACKET_MR_PROMISC.toNat.toUInt16 }
      let os := os.record (.setsockopt socket SOL_PACKET PACKET_ADD_MEMBERSHIP pmr packetMreqSize)
      match answers.setsockopt with
      | .fail errno => (.returns (.error (.os errno)), os.close socket)
      | .ok _ =>
        let os := os.record (.fcntl socket F_SETFL O_NONBLOCK)
        match answers.fcntl with
        | .fail errno => (.returns (.error (.os errno)), os.close socket)
        | .ok _ =>
          -- `Arc::new(FileDesc { fd: socket })`: a panic while the halves are built unwinds
          -- through the `Arc`, whose `FileDesc::drop` closes the socket
          match channelHalves config socket addr len with
          | some ch => (.returns (.ok ch), os)
          | none => (.panics, os.close socket)

/-! ### The setup calls -/

/-- The `errno` of the first of the four setup calls that fails. -/
def SetupAnswers.firstError (a : SetupAnswers) : Option Nat :=
  match a.socket, a.bind, a.setsockopt, a.fcntl with
  | .fail e, _, _, _ => some e
  | .ok _, .fail e, _, _ => some e
  | .ok _, .ok _, .fail e, _ => some e
  | .ok _, .ok _, .ok _, .fail e => some e
  | .ok _, .ok _, .ok _, .ok _ => none

@[simp] theorem socketTypeAndProtocol_eq (config : Config) :
    socketTypeAndProtocol config = (SOCK_RAW, 3) := rfl

/-- What the halves need beyond the four calls: a descriptor `FD_SET` can index, and buffer
sizes `Vec` can reserve. -/
def Config.Fits (config : Config) (socket : Nat) : Prop :=
  socket < FD_SETSIZE ∧ config.writeBufferSize ≤ isizeMax ∧ config.readBufferSize ≤ isizeMax

instance (config : Config) (socket : Nat) : Decidable (config.Fits socket) :=
  inferInstanceAs (Decidable (_ ∧ _ ∧ _))

section Halves

variable {config : Config} {socket : Nat} {addr : SockaddrLl} {len : Nat}

/-- When the descriptor and the buffer sizes fit, both halves are built: each holds the socket,
a set of just the socket, a zeroed buffer of the configured size and its stored timeout. -/
theorem channelHalves_of_fits (h : config.Fits socket) :
    channelHalves config socket addr len = some (.ethernet
      { socket, fdSet := [socket], writeBuffer := List.replicate config.writeBufferSize 0,
        channelType := config.channelType, sendAddr := addr, sendAddrLen := len,
        timeout := config.writeTimeout.map Internal.durationToTimespec }
      { socket, fdSet := [socket], readBuffer := List.replicate config.readBufferSize 0,
        channelType := config.channelType,
        timeout := config.readTimeout.map Internal.durationToTimespec }) := by
  obtain ⟨hfd, hw, hr⟩ := h
  unfold channelHalves repeatTakeCollect FD_SET
  rw [if_pos hw, if_pos hfd, if_pos hr]
  rfl

/-- Otherwise the write buffer, the `FD_SET` or the read buffer panics, in that order. -/
theorem channelHalves_of_not_fits (h : ¬ config.Fits socket) :
    channelHalves config socket addr len = none := by
  unfold channelHalves repeatTakeCollect FD_SET
  by_cases hw : config.writeBufferSize ≤ isizeMax
  case neg => rw [if_neg hw]; rfl
  by_cases hfd : socket < FD_SETSIZE
  case neg => rw [if_pos hw, if_neg hfd]; rfl
  rw [if_pos hw, if_pos hfd, if_neg fun hr => h ⟨hfd, hw, hr⟩]
  rfl

end Halves

section Outcomes

variable {host : Endian} {ni : NetworkInterface} {config : Config} {answers : SetupAnswers}
  {os : Os}

/-- When a setup call fails, `channel` returns its OS error, and the socket, if it was opened,
is closed again. -/
theorem channel_of_firstError {errno : Nat} (h : answers.firstError = some errno) :
    (channel host ni config answers os).1 = .returns (.error (.os errno)) ∧
      (channel host ni config answers os).2.fds = os.fds := by
  obtain ⟨sock, bnd, sso, fcn⟩ := answers
  cases sock <;> cases bnd <;> cases sso <;> cases fcn <;>
    simp_all [SetupAnswers.firstError, channel, Os.socket]

/-- When the four calls succeed, `channel` returns the halves `channelHalves` builds, or panics
and closes the socket, on a host where `socket` has opened it. -/
theorem channel_of_firstError_none (h : answers.firstError = none) :
    ∃ fd os', answers.socket = .ok fd ∧ os'.fds = fd :: os.fds ∧
      channel host ni config answers os =
        match channelHalves config fd
            (networkAddrToSockaddr host ni SockaddrLl.zeroed (3 : UInt16).toNat).1 sockaddrLlSize with
        | some ch => (.returns (.ok ch), os')
        | none => (.panics, os'.close fd) := by
  obtain ⟨sock, bnd, sso, fcn⟩ := answers
  cases sock <;> cases bnd <;> cases sso <;> cases fcn <;>
    simp only [SetupAnswers.firstError, reduceCtorEq] at h
  exact ⟨_, _, rfl, rfl, rfl⟩

/-- When the four calls succeed with a descriptor and buffer sizes that fit, `channel` returns
both halves on the descriptor `socket` returned, which it added to the open descriptors. -/
theorem channel_of_fits {fd : Nat} (he : answers.firstError = none)
    (hs : answers.socket = .ok fd) (hf : config.Fits fd) :
    ∃ s r, (channel host ni config answers os).1 = .returns (.ok (.ethernet s r)) ∧
      s.socket = fd ∧ r.socket = fd ∧ (channel host ni config answers os).2.fds = fd :: os.fds := by
  obtain ⟨fd', os', hs', hfds, hch⟩ := @channel_of_firstError_none host ni config answers os he
  cases hs.symm.trans hs'
  rw [hch, channelHalves_of_fits hf]
  exact ⟨_, _, rfl, rfl, rfl, hfds⟩

/-- When the four calls succeed but the descriptor or a buffer size does not fit, `channel`
panics, and the socket is closed again. -/
theorem channel_of_not_fits {fd : Nat} (he : answers.firstError = none)
    (hs : answers.socket = .ok fd) (hf : ¬ config.Fits fd) :
    (channel host ni config answers os).1 = .panics ∧
      (channel host ni config answers os).2.fds = os.fds := by
  obtain ⟨fd', os', hs', hfds, hch⟩ := @channel_of_firstError_none host ni config answers os he
  cases hs.symm.trans hs'
  rw [hch, channelHalves_of_not_fits hf]
  exact ⟨rfl, by rw [Os.close_fds, hfds, List.erase_cons_head]⟩

/-- **What an open channel holds.**  `channel` returns `Ok` only when the four calls succeed
with a descriptor and buffer sizes that fit.  Both halves then hold the descriptor `socket`
returned, which is the one descriptor `channel` added; the sender keeps the address
`network_addr_to_sockaddr` filled, and each half its configured timeout. -/
theorem channel_eq_ok {s : DataLinkSenderImpl} {r : DataLinkReceiverImpl}
    (h : (channel host ni config answers os).1 = .returns (.ok (.ethernet s r))) :
    answers.firstError = none ∧ answers.socket = .ok s.socket ∧ config.Fits s.socket ∧
      r.socket = s.socket ∧
      s.sendAddr = (networkAddrToSockaddr host ni SockaddrLl.zeroed (3 : UInt16).toNat).1 ∧
      s.sendAddrLen = sockaddrLlSize ∧
      s.timeout = config.writeTimeout.map Internal.durationToTimespec ∧
      r.timeout = config.readTimeout.map Internal.durationToTimespec ∧
      (channel host ni config answers os).2.fds = s.socket :: os.fds := by
  cases he : answers.firstError with
  | some errno => rw [(channel_of_firstError he).1] at h; cases h
  | none =>
    obtain ⟨fd, os', hs, hfds, hch⟩ := @channel_of_firstError_none host ni config answers os he
    by_cases hf : config.Fits fd
    · rw [hch, channelHalves_of_fits hf] at h ⊢
      cases h
      exact ⟨rfl, hs, hf, rfl, rfl, rfl, rfl, rfl, hfds⟩
    · rw [hch, channelHalves_of_not_fits hf] at h
      cases h

/-- An open channel keeps each configured timeout as `duration_to_timespec` of it. -/
theorem channel_timeouts {s : DataLinkSenderImpl} {r : DataLinkReceiverImpl}
    (h : (channel host ni config answers os).1 = .returns (.ok (.ethernet s r))) :
    s.timeout = config.writeTimeout.map Internal.durationToTimespec ∧
      r.timeout = config.readTimeout.map Internal.durationToTimespec :=
  let ⟨_, _, _, _, _, _, hs, hr, _⟩ := channel_eq_ok h
  ⟨hs, hr⟩

end Outcomes

/-- An Ethernet interface, index 2. -/
def eth0 : NetworkInterface :=
  { name := "eth0", index := 2, mac := some ⟨0x28, 0xef, 0xf9, 0x5f, 0x8e, 0x2b⟩, ips := none,
    flags := 0 }

section Sockaddr

variable (host : Endian) (ni : NetworkInterface) (storage : SockaddrLl) (proto : Int)

@[simp] theorem sllFamily_networkAddrToSockaddr :
    (networkAddrToSockaddr host ni storage proto).1.sllFamily = AF_PACKET.toNat.toUInt16 := by
  unfold networkAddrToSockaddr; split <;> rfl

@[simp] theorem sllProtocol_networkAddrToSockaddr :
    (networkAddrToSockaddr host ni storage proto).1.sllProtocol =
      toBe16 host (proto % 65536).toNat.toUInt16 := by
  unfold networkAddrToSockaddr; split <;> rfl

@[simp] theorem sllIfindex_networkAddrToSockaddr :
    (networkAddrToSockaddr host ni storage proto).1.sllIfindex = signedCast 32 ni.index.toNat := by
  unfold networkAddrToSockaddr; split <;> rfl

@[simp] theorem size_networkAddrToSockaddr :
    (networkAddrToSockaddr host ni storage proto).2 = sockaddrLlSize := by
  unfold networkAddrToSockaddr; split <;> rfl

end Sockaddr

/-- The calls `channel` makes: first `socket(AF_PACKET, SOCK_RAW, htons(ETH_P_ALL))`, then, if
that succeeds, `bind` to the address `network_addr_to_sockaddr` fills for `ETH_P_ALL`. -/
theorem channel_log (host : Endian) (ni : NetworkInterface) (config : Config)
    (answers : SetupAnswers) (os : Os) :
    ∃ calls, (channel host ni config answers os).2.log =
      os.log ++ .socket AF_PACKET SOCK_RAW (toBe16 host 3).toNat :: calls ∧
      ∀ fd, answers.socket = .ok fd → ∃ rest, calls =
        .bind fd (networkAddrToSockaddr host ni SockaddrLl.zeroed (3 : UInt16).toNat).1
          sockaddrLlSize :: rest := by
  obtain ⟨sock, bnd, sso, fcn⟩ := answers
  cases sock with
  | fail => simp [channel, Os.socket]
  | ok fd =>
    cases bnd <;> cases sso <;> cases fcn <;> simp [channel, Os.socket]
    split <;> simp

/-- **`channel` opens a raw socket whatever the channel type.**  The socket is always
`socket(AF_PACKET, SOCK_RAW, htons(ETH_P_ALL))`, and it is bound to an `AF_PACKET` address
with that protocol and the interface index cast to `i32`.  So the call matches the documented
one exactly for `Layer2`, and the index is kept exactly when it is below `2 ^ 31`. -/
theorem channel_socket_args (host : Endian) (ni : NetworkInterface) (config : Config)
    (answers : SetupAnswers) (os : Os) :
    (∃ calls, (channel host ni config answers os).2.log =
      os.log ++ .socket AF_PACKET SOCK_RAW (toBe16 host 3).toNat :: calls ∧
      ∀ fd, answers.socket = .ok fd → ∃ addr rest, calls = .bind fd addr sockaddrLlSize :: rest ∧
        addr.sllFamily = AF_PACKET.toNat.toUInt16 ∧ addr.sllProtocol = toBe16 host 3 ∧
        addr.sllIfindex = signedCast 32 ni.index.toNat) ∧
    ((channel host ni config answers os).2.log[os.log.length]? =
        some (.socket AF_PACKET (documentedSocketTypeAndProtocol config).1
          (toBe16 host (documentedSocketTypeAndProtocol config).2).toNat) ↔
      config.channelType = .layer2) ∧
    (signedCast 32 ni.index.toNat = ni.index.toNat ↔ ni.index.toNat < 2 ^ 31) := by
  obtain ⟨calls, hlog, hbind⟩ := channel_log host ni config answers os
  refine ⟨⟨calls, hlog, fun fd hfd => ?_⟩, ?_, signedCast_eq_self_iff ni.index.toNat_lt_size⟩
  · obtain ⟨rest, hrest⟩ := hbind fd hfd
    exact ⟨_, rest, hrest, by simp, by simp; rfl, by simp⟩
  · rw [hlog, List.getElem?_append_right (Nat.le_refl _), Nat.sub_self]
    cases h : config.channelType <;>
      simp [documentedSocketTypeAndProtocol, h, SOCK_RAW, SOCK_DGRAM]

/-! ### Timeouts -/

/-- `Duration::MAX`. -/
def Duration.MAX : Duration := ⟨18446744073709551615, 999999999, by decide⟩

/-- **The stored timeouts are exact only below `2 ^ 63` seconds.**  `channel` stores each
configured timeout as `duration_to_timespec` of it.  Its nanoseconds are always in range and
exact, but `as_secs() as time_t` wraps: the `timespec` is valid, and exact, exactly when the
duration is below `2 ^ 63` seconds, and its seconds are negative from there on. -/
theorem durationToTimespec_exact_iff :
    (∀ d : Duration,
      (0 ≤ (Internal.durationToTimespec d).tvNsec ∧
        (Internal.durationToTimespec d).tvNsec < 1000000000) ∧
      ((Internal.durationToTimespec d).Valid ↔ d.asSecs.toNat < 2 ^ 63) ∧
      ((Internal.durationToTimespec d).tvSec * 1000000000 + (Internal.durationToTimespec d).tvNsec =
        d.asNanos ↔ d.asSecs.toNat < 2 ^ 63) ∧
      ((Internal.durationToTimespec d).tvSec < 0 ↔ 2 ^ 63 ≤ d.asSecs.toNat)) ∧
    (∀ host ni config answers os s r,
      (channel host ni config answers os).1 = .returns (.ok (.ethernet s r)) →
      s.timeout = config.writeTimeout.map Internal.durationToTimespec ∧
      r.timeout = config.readTimeout.map Internal.durationToTimespec) := by
  refine ⟨fun d => ?_, fun _ _ _ _ _ _ _ => channel_timeouts⟩
  have hs : d.asSecs.toNat < 2 ^ 64 := d.asSecs.toNat_lt_size
  have hn : d.nanos.toNat < 1000000000 := d.nanos_lt
  have heq : signedCast 64 d.asSecs.toNat = d.asSecs.toNat ↔ d.asSecs.toNat < 2 ^ 63 :=
    signedCast_eq_self_iff hs
  have hnn : 0 ≤ signedCast 64 d.asSecs.toNat ↔ d.asSecs.toNat < 2 ^ 63 :=
    signedCast_nonneg_iff hs
  refine ⟨?_, durationToTimespec_valid_iff d, ?_, ?_⟩ <;>
    simp only [Internal.durationToTimespec, Duration.asNanos, Duration.subsecNanos,
      Duration.asSecs] at *
  · omega
  · rw [← heq]; omega
  · rw [← not_le, hnn, not_lt]

theorem durationToTimespec_exact_iff_max :
    Internal.durationToTimespec Duration.MAX = ⟨-1, 999999999⟩ ∧
      ∃ s r, (channel .little eth0 { Config.default with writeTimeout := some Duration.MAX }
        ⟨.ok 3, .ok 0, .ok 0, .ok 0⟩ ⟨[], []⟩).1 = .returns (.ok (.ethernet s r)) ∧
        s.timeout = some ⟨-1, 999999999⟩ :=
  ⟨rfl, _, _, rfl, (durationToTimespec_exact_iff.2 .little eth0
    { Config.default with writeTimeout := some Duration.MAX } ⟨.ok 3, .ok 0, .ok 0, .ok 0⟩ ⟨[], []⟩
    _ _ rfl).1⟩


end LinkLayer.DataLink
