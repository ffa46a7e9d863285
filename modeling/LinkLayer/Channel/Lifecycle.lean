import LinkLayer.Channel.Halves

/-!
# The shared descriptor is closed exactly once, by the last half dropped

`channel` wraps the socket in one `Arc<FileDesc>` and gives each half a clone of it; the `Drop`
of `FileDesc` is `sockets::close(self.fd)`.  So the strong count of the `Arc` is state the two
halves share, and the descriptor is closed when the count falls to zero.  `ArcFileDesc` holds
the count beside the descriptor; `Halves` is what lives after `channel` returns `Ok`: the
`Arc`, each half until it is dropped, and the host.

A run is any interleaving of `send_to` calls, `next` calls and the drops of the two halves,
each half used only while it is alive; a call that does not return ends the run.

* `Halves.step_live` — one step keeps `Halves.Live`: the strong count is the number of halves
  alive, both halves hold the descriptor of the `Arc`, and that descriptor has been closed
  once when no half is left and not at all before;
* `Halves.run_live` — so along every run;
* `descriptor_closed_once` — for every channel `channel` opens and every run of its halves,
  the descriptor is closed exactly when both halves have been dropped, and then exactly once:
  it is never closed twice and never left open.
-/

namespace LinkLayer.DataLink

open LinkLayer.Ether

/-! ### `Arc<FileDesc>` -/

/-- `Arc<FileDesc>`: the descriptor of its one `FileDesc`, and the strong count of the `Arc`s
that point at it. -/
structure ArcFileDesc where
  fd : Nat
  strong : Nat
  deriving DecidableEq, Repr

namespace ArcFileDesc

/-- `Arc::new(FileDesc { fd })`. -/
def new (fd : Nat) : ArcFileDesc := ⟨fd, 1⟩

/-- `Arc::clone`. -/
def clone (a : ArcFileDesc) : ArcFileDesc := { a with strong := a.strong + 1 }

/-- `Drop for Arc`: one `Arc` fewer.  Dropping the last one drops the `FileDesc`, whose `drop`
is `sockets::close(self.fd)`. -/
def drop (a : ArcFileDesc) (os : Os) : ArcFileDesc × Os :=
  if a.strong = 1 then ({ a with strong := 0 }, os.close a.fd)
  else ({ a with strong := a.strong - 1 }, os)

end ArcFileDesc

/-- The `Arc`s of `channel`: `Arc::new`, one `fd.clone()` for each half, and the drop of its
own `fd` when it returns. -/
def channelArc (fd : Nat) (os : Os) : ArcFileDesc × Os :=
  (ArcFileDesc.new fd).clone.clone.drop os

/-! ### The halves after `channel` -/

/-- What lives after `channel` returns `Ok`: the shared `Arc`, each half until it is dropped,
and the host. -/
structure Halves where
  arc : ArcFileDesc
  sender : Option DataLinkSenderImpl
  receiver : Option DataLinkReceiverImpl
  os : Os

/-- The halves `channel` returns, with the `Arc` as it leaves it. -/
def Halves.opened (s : DataLinkSenderImpl) (r : DataLinkReceiverImpl) (os : Os) : Halves :=
  let arc := channelArc s.socket os
  { arc := arc.1, sender := some s, receiver := some r, os := arc.2 }

/-- What the program holding the channel does next. -/
inductive Event
  | sendTo (packet : EthernetPacket) (host : CallHost Nat)
  | next (host : CallHost (List UInt8))
  | dropSender
  | dropReceiver

namespace Halves

/-- One event.  `none` when it cannot happen, its half being dropped already, or when the call
does not return. -/
def step (h : Halves) : Event → Option Halves
  | .sendTo packet host => h.sender.bind fun s =>
    match s.sendTo packet host h.os with
    | (.returns _, s, os) => some { h with sender := some s, os }
    | _ => none
  | .next host => h.receiver.bind fun r =>
    match r.next host h.os with
    | (.returns _, r, os) => some { h with receiver := some r, os }
    | _ => none
  | .dropSender => h.sender.map fun _ =>
    { h with arc := (h.arc.drop h.os).1, sender := none, os := (h.arc.drop h.os).2 }
  | .dropReceiver => h.receiver.map fun _ =>
    { h with arc := (h.arc.drop h.os).1, receiver := none, os := (h.arc.drop h.os).2 }

/-- A run of events, `none` when one of them cannot happen or does not return. -/
def run : Halves → List Event → Option Halves
  | h, [] => some h
  | h, e :: es => (h.step e).bind fun h => h.run es

end Halves

/-! ### Closing, call by call -/

/-- How often the host was asked to close `fd`. -/
def Os.closes (os : Os) (fd : Nat) : Nat := os.log.count (.close fd)

namespace Os

variable (os : Os) (fd : Nat)

theorem closes_record {c : Syscall} (hc : ∀ fd', c ≠ .close fd') :
    (os.record c).closes fd = os.closes fd := by
  simp [closes, record, List.count_singleton, hc]

@[simp] theorem closes_close : (os.close fd).closes fd = os.closes fd + 1 := by
  simp [closes, close]

end Os

/-- A retried call that is not a `close` closes nothing. -/
theorem Internal.retry_closes {α : Type} {call : Syscall} (hc : ∀ fd', call ≠ .close fd')
    (fd : Nat) : ∀ (answers : List (Answer α)) (os : Os),
      (Internal.retry call answers os).2.closes fd = os.closes fd
  | [], _ => rfl
  | ret :: rest, os => by
    rw [Internal.retry]
    split
    · rw [retry_closes hc fd rest, Os.closes_record _ _ hc]
    · exact Os.closes_record _ _ hc

/-- `send_to` closes no descriptor. -/
theorem DataLinkSenderImpl.sendTo_closes (s : DataLinkSenderImpl) (packet : EthernetPacket)
    (host : CallHost Nat) (os : Os) (fd : Nat) :
    (s.sendTo packet host os).2.2.closes fd = os.closes fd := by
  have ha : (awaitSocket .write s.socket s.fdSet s.timeout host.wait os).2.closes fd =
      os.closes fd := Os.closes_record _ _ fun _ => nofun
  unfold DataLinkSenderImpl.sendTo
  generalize awaitSocket .write s.socket s.fdSet s.timeout host.wait os = p at ha
  obtain ⟨_ | ⟨_ | ⟨⟨⟩⟩, set⟩, os'⟩ := p
  · exact ha
  · exact ha
  · have hs : (Internal.sendTo s.socket packet.packet s.sendAddr s.sendAddrLen host.answers
        os').2.closes fd = os'.closes fd := Internal.retry_closes (fun _ h => by cases h) fd _ _
    dsimp only
    generalize Internal.sendTo s.socket packet.packet s.sendAddr s.sendAddrLen host.answers os' = q
      at hs
    obtain ⟨_ | _ | _, os''⟩ := q <;> exact hs.trans ha

/-- `next` closes no descriptor. -/
theorem DataLinkReceiverImpl.next_closes (r : DataLinkReceiverImpl) (host : CallHost (List UInt8))
    (os : Os) (fd : Nat) : (r.next host os).2.2.closes fd = os.closes fd := by
  have ha : (awaitSocket .read r.socket r.fdSet r.timeout host.wait os).2.closes fd =
      os.closes fd := Os.closes_record _ _ fun _ => nofun
  unfold DataLinkReceiverImpl.next
  generalize awaitSocket .read r.socket r.fdSet r.timeout host.wait os = p at ha
  obtain ⟨_ | ⟨_ | ⟨⟨⟩⟩, set⟩, os'⟩ := p
  · exact ha
  · exact ha
  · have hs : (Internal.recvFrom r.socket r.readBuffer host.answers os').2.closes fd =
        os'.closes fd := Internal.retry_closes (fun _ h => by cases h) fd _ _
    dsimp only
    generalize Internal.recvFrom r.socket r.readBuffer host.answers os' = q at hs
    obtain ⟨_ | ⟨_ | _, buf⟩, os''⟩ := q
    · exact hs.trans ha
    · exact hs.trans ha
    · dsimp only
      split <;> exact hs.trans ha

/-- Dropping one of `n + 1` `Arc`s: `n` are left, and the descriptor is closed exactly when
none is. -/
theorem ArcFileDesc.drop_closes {a : ArcFileDesc} {n : Nat} (hn : a.strong = n + 1) (os : Os) :
    (a.drop os).1 = { a with strong := n } ∧
      (a.drop os).2.closes a.fd = os.closes a.fd + if n = 0 then 1 else 0 := by
  unfold ArcFileDesc.drop
  by_cases h0 : n = 0
  · simp [hn, h0]
  · rw [if_neg (by omega)]
    simp [hn, h0]

/-! ### The invariant -/

namespace Halves

/-- `h.Live fd c₀`: the `Arc` is that of `fd`, its strong count is the number of halves alive,
each half alive holds `fd`, and `fd` has been closed `c₀` times, and once more when no half is
left. -/
structure Live (fd c₀ : Nat) (h : Halves) : Prop where
  arc_fd : h.arc.fd = fd
  strong_eq : h.arc.strong = h.sender.isSome.toNat + h.receiver.isSome.toNat
  sender_fd : ∀ s ∈ h.sender, s.socket = fd
  receiver_fd : ∀ r ∈ h.receiver, r.socket = fd
  closes_eq : h.os.closes fd = c₀ + if h.arc.strong = 0 then 1 else 0

variable {fd c₀ : Nat} {h h' : Halves}

/-- **One step keeps `Live`.**  A call keeps the half's descriptor and closes nothing; a drop
takes one `Arc` away and closes the descriptor when it was the last. -/
theorem step_live (hl : h.Live fd c₀) {e : Event} (hs : h.step e = some h') :
    h'.Live fd c₀ := by
  cases e with
  | sendTo packet host =>
    obtain ⟨s, hsend, hstep⟩ := Option.bind_eq_some.1 hs
    have hsock : (s.sendTo packet host h.os).2.1.socket = s.socket :=
      congrArg (·.socket) (s.sendTo_frame packet host h.os)
    have hcl := s.sendTo_closes packet host h.os fd
    generalize s.sendTo packet host h.os = res at hstep hsock hcl
    obtain ⟨_ | _ | _, s', os'⟩ := res <;> cases hstep
    refine ⟨hl.arc_fd, by simp [hl.strong_eq, hsend], ?_, hl.receiver_fd, hcl ▸ hl.closes_eq⟩
    rintro _ ⟨⟩
    exact hsock.trans (hl.sender_fd s hsend)
  | next host =>
    obtain ⟨r, hrecv, hstep⟩ := Option.bind_eq_some.1 hs
    have hsock : (r.next host h.os).2.1.socket = r.socket :=
      congrArg (·.socket) (r.next_frame host h.os)
    have hcl := r.next_closes host h.os fd
    generalize r.next host h.os = res at hstep hsock hcl
    obtain ⟨_ | _ | _, r', os'⟩ := res <;> cases hstep
    refine ⟨hl.arc_fd, by simp [hl.strong_eq, hrecv], hl.sender_fd, ?_, hcl ▸ hl.closes_eq⟩
    rintro _ ⟨⟩
    exact hsock.trans (hl.receiver_fd r hrecv)
  | dropSender =>
    obtain ⟨s, hsend, rfl⟩ := Option.map_eq_some'.1 hs
    have hn : h.arc.strong = h.receiver.isSome.toNat + 1 := by
      rw [hl.strong_eq, hsend]; simp [Nat.add_comm]
    obtain ⟨harc, hcl⟩ := ArcFileDesc.drop_closes hn h.os
    rw [hl.arc_fd] at hcl
    refine ⟨by simp [harc, hl.arc_fd], by simp [harc], nofun, hl.receiver_fd, ?_⟩
    simp only [hcl, harc, hl.closes_eq, hn]
    cases h.receiver <;> simp
  | dropReceiver =>
    obtain ⟨r, hrecv, rfl⟩ := Option.map_eq_some'.1 hs
    have hn : h.arc.strong = h.sender.isSome.toNat + 1 := by
      rw [hl.strong_eq, hrecv]; simp
    obtain ⟨harc, hcl⟩ := ArcFileDesc.drop_closes hn h.os
    rw [hl.arc_fd] at hcl
    refine ⟨by simp [harc, hl.arc_fd], by simp [harc], hl.sender_fd, nofun, ?_⟩
    simp only [hcl, harc, hl.closes_eq, hn]
    cases h.sender <;> simp

/-- **Every run keeps `Live`.** -/
theorem run_live : ∀ {h h' : Halves} (events : List Event),
    h.Live fd c₀ → h.run events = some h' → h'.Live fd c₀
  | _, _, [], hl, hrun => by cases hrun; exact hl
  | _, _, _ :: es, hl, hrun => by
    obtain ⟨_, hstep, hrest⟩ := Option.bind_eq_some.1 hrun
    exact run_live es (step_live hl hstep) hrest

/-- `channel` leaves two `Arc`s of the descriptor of its halves, and has closed nothing. -/
theorem opened_live {s : DataLinkSenderImpl} {r : DataLinkReceiverImpl} (hr : r.socket = s.socket)
    (os : Os) : (opened s r os).Live s.socket (os.closes s.socket) :=
  ⟨rfl, rfl, fun _ hs => by cases hs; rfl, fun _ hr' => by cases hr'; exact hr, rfl⟩

end Halves

/-- Both halves `channel` returns hold the one descriptor. -/
theorem channel_ok_socket {host : Endian} {ni : NetworkInterface} {config : Config}
    {answers : SetupAnswers} {os : Os} {s : DataLinkSenderImpl} {r : DataLinkReceiverImpl}
    (h : (channel host ni config answers os).1 = .returns (.ok (.ethernet s r))) :
    r.socket = s.socket :=
  (channel_eq_ok h).2.2.2.1

/-- **The descriptor is closed exactly once, by the last half dropped.**  For every channel
`channel` opens and every run of its halves, each half still alive holds the descriptor, and
the host has been asked to close it once more than when `channel` returned if both halves
have been dropped, and not at all otherwise. -/
theorem descriptor_closed_once {host : Endian} {ni : NetworkInterface} {config : Config}
    {answers : SetupAnswers} {os : Os} {s : DataLinkSenderImpl} {r : DataLinkReceiverImpl}
    (hch : (channel host ni config answers os).1 = .returns (.ok (.ethernet s r)))
    {events : List Event}
    {h : Halves}
    (hrun : (Halves.opened s r (channel host ni config answers os).2).run events = some h) :
    (∀ s' ∈ h.sender, s'.socket = s.socket) ∧ (∀ r' ∈ h.receiver, r'.socket = s.socket) ∧
      h.os.closes s.socket = (channel host ni config answers os).2.closes s.socket +
        if h.sender.isNone ∧ h.receiver.isNone then 1 else 0 := by
  have hl := Halves.run_live events (Halves.opened_live (channel_ok_socket hch) _) hrun
  refine ⟨hl.sender_fd, hl.receiver_fd, ?_⟩
  rw [hl.closes_eq, hl.strong_eq]
  cases h.sender <;> cases h.receiver <;> simp

/-- Answers under which all four setup calls of `channel` succeed, with descriptor 3. -/
def setupOk : SetupAnswers := ⟨.ok 3, .ok 0, .ok 0, .ok 0⟩

theorem descriptor_closed_once_dropBoth :
    ∃ s r h, (channel .little eth0 Config.default setupOk ⟨[0, 1, 2], []⟩).1 =
        .returns (.ok (.ethernet s r)) ∧
      (Halves.opened s r (channel .little eth0 Config.default setupOk ⟨[0, 1, 2], []⟩).2).run
          [.dropSender, .dropReceiver] = some h ∧
      ((∀ s' ∈ h.sender, s'.socket = s.socket) ∧ (∀ r' ∈ h.receiver, r'.socket = s.socket) ∧
        h.os.closes s.socket =
          (channel .little eth0 Config.default setupOk ⟨[0, 1, 2], []⟩).2.closes s.socket +
            if h.sender.isNone ∧ h.receiver.isNone then 1 else 0) :=
  ⟨_, _, _, rfl, rfl, @descriptor_closed_once .little eth0 Config.default setupOk ⟨[0, 1, 2], []⟩
    _ _ rfl [.dropSender, .dropReceiver] _ rfl⟩

end LinkLayer.DataLink
