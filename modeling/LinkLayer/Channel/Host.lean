import LinkLayer.Ether

/-!
# The host as the channel sees it

`channel.rs` talks to Linux through `libc`: `socket`, `bind`, `setsockopt`, `fcntl` and
`close` when a channel is opened, then `pselect` followed by `sendto` or `recvfrom` on each
call of a half.  This file fixes what the model knows of that host.

* A call's result is an `Answer`: its non-negative result, or `-1` with an `errno`.  The
  answers are the host's choice: every theorem about the channel quantifies over all of them.
* `Os` is the host state the channel changes: the open descriptors, and the log of the calls
  made, with their arguments.
* `pselect` is modelled as Linux runs it: an invalid timeout fails with `EINVAL` before
  anything else; a failure leaves the set alone; otherwise the set is overwritten by its
  members that became ready, which is the empty set when the timeout expires.
* `Internal.retry` is `internal::retry`, and `retry_eq` says what it returns: the first answer that is
  not an `EINTR` failure, if the host ever gives one.
* `Internal.durationToTimespec` is `internal::duration_to_timespec`, with the `as time_t` cast made
  explicit as `signedCast 64`.
-/

namespace LinkLayer.DataLink

open LinkLayer.Ether

/-! ### `libc` and `linux` constants -/

/-- `libc::AF_PACKET`. -/
def AF_PACKET : Int := 17
/-- `libc::SOCK_RAW`. -/
def SOCK_RAW : Int := 3
/-- `libc::SOCK_DGRAM`. -/
def SOCK_DGRAM : Int := 2
/-- `libc::F_SETFL`. -/
def F_SETFL : Int := 4
/-- `libc::O_NONBLOCK`. -/
def O_NONBLOCK : Int := 2048
/-- `linux::SOL_PACKET`. -/
def SOL_PACKET : Int := 263
/-- `linux::PACKET_ADD_MEMBERSHIP`. -/
def PACKET_ADD_MEMBERSHIP : Int := 1
/-- `linux::PACKET_MR_PROMISC`. -/
def PACKET_MR_PROMISC : Int := 1
/-- `libc::EINTR`: the call was interrupted by a signal. -/
def EINTR : Nat := 4
/-- `libc::EINVAL`. -/
def EINVAL : Nat := 22

/-! ### Errors and answers -/

/-- The `io::ErrorKind`s the datalink code builds errors of. -/
inductive ErrorKind
  | timedOut
  | invalidData
  deriving DecidableEq, Repr

/-- `io::Error` as the channel makes it: `last_os_error()`, or `io::Error::new(kind, error)`. -/
inductive IoError
  | os (code : Nat)
  | new (kind : ErrorKind) (error : String)
  deriving DecidableEq, Repr

/-- `io::Error::new(io::ErrorKind::TimedOut, "Timed out")`, the error of an expired wait. -/
def IoError.timedOut : IoError := .new .timedOut "Timed out"

/-- Results of the channel's calls are compared by value. -/
instance instDecidableEqExcept {ε α : Type} [DecidableEq ε] [DecidableEq α] :
    DecidableEq (Except ε α)
  | .error a, .error b =>
    if h : a = b then isTrue (h ▸ rfl) else isFalse fun e => h (Except.error.inj e)
  | .ok a, .ok b => if h : a = b then isTrue (h ▸ rfl) else isFalse fun e => h (Except.ok.inj e)
  | .error _, .ok _ => isFalse nofun
  | .ok _, .error _ => isFalse nofun

/-- The host's answer to one system call: a non-negative result, or `-1` with `errno`. -/
inductive Answer (α : Type)
  | ok (v : α)
  | fail (errno : Nat)
  deriving DecidableEq, Repr

/-- `ret == -1 && errno == EINTR`. -/
def Answer.interrupted {α : Type} : Answer α → Bool
  | .ok _ => false
  | .fail errno => errno == EINTR

/-- How a call ends: it returns, it panics, or it never returns. -/
inductive Exit (α : Type)
  | returns (a : α)
  | panics
  | waits
  deriving DecidableEq, Repr

/-! ### Time -/

/-- `std::time::Duration`: whole seconds and the nanoseconds below one second. -/
structure Duration where
  secs : UInt64
  nanos : UInt32
  nanos_lt : nanos.toNat < 1000000000

/-- `Duration::as_secs`. -/
def Duration.asSecs (d : Duration) : UInt64 := d.secs

/-- `Duration::subsec_nanos`. -/
def Duration.subsecNanos (d : Duration) : UInt32 := d.nanos

/-- `Duration::as_nanos`: the whole duration in nanoseconds. -/
def Duration.asNanos (d : Duration) : Nat := d.secs.toNat * 1000000000 + d.nanos.toNat

/-- `libc::timespec`, both fields 64-bit signed. -/
structure Timespec where
  tvSec : Int
  tvNsec : Int
  deriving DecidableEq, Repr

/-- A timeout Linux accepts (`timespec64_valid`). -/
def Timespec.Valid (t : Timespec) : Prop := 0 ≤ t.tvSec ∧ 0 ≤ t.tvNsec ∧ t.tvNsec < 1000000000

instance (t : Timespec) : Decidable t.Valid := inferInstanceAs (Decidable (_ ∧ _ ∧ _))

/-- `v as iN` for an unsigned `v < 2 ^ N`: two's complement, so that values from `2 ^ (N - 1)`
on wrap around to negative ones. -/
def signedCast (bits v : Nat) : Int := if v < 2 ^ (bits - 1) then v else (v : Int) - (2 ^ bits : Nat)

theorem signedCast_eq_self_iff {bits v : Nat} (hv : v < 2 ^ bits) :
    signedCast bits v = v ↔ v < 2 ^ (bits - 1) := by
  unfold signedCast; split <;> omega

theorem signedCast_nonneg_iff {bits v : Nat} (hv : v < 2 ^ bits) :
    0 ≤ signedCast bits v ↔ v < 2 ^ (bits - 1) := by
  unfold signedCast; split <;> omega

/-- `internal::duration_to_timespec`: `as_secs() as time_t` and `subsec_nanos() as c_long`. -/
def Internal.durationToTimespec (dur : Duration) : Timespec :=
  { tvSec := signedCast 64 dur.asSecs.toNat, tvNsec := dur.subsecNanos.toNat }

/-- `duration_to_timespec` gives a `timespec` that `pselect` accepts exactly below `2 ^ 63`
seconds. -/
theorem durationToTimespec_valid_iff (d : Duration) :
    (Internal.durationToTimespec d).Valid ↔ d.asSecs.toNat < 2 ^ 63 := by
  have hnn : 0 ≤ signedCast 64 d.asSecs.toNat ↔ d.asSecs.toNat < 2 ^ 63 :=
    signedCast_nonneg_iff d.asSecs.toNat_lt_size
  have hn : d.nanos.toNat < 1000000000 := d.nanos_lt
  simp only [Internal.durationToTimespec, Timespec.Valid, Duration.subsecNanos] at *
  rw [← hnn]; omega

/-! ### Socket addresses -/

/-- `libc::sockaddr_ll`. -/
structure SockaddrLl where
  sllFamily : UInt16
  sllProtocol : UInt16
  sllIfindex : Int
  sllHatype : UInt16
  sllPkttype : UInt8
  sllHalen : UInt8
  sllAddr : List UInt8
  deriving DecidableEq, Repr

/-- `mem::zeroed()` storage read as a `sockaddr_ll`. -/
def SockaddrLl.zeroed : SockaddrLl := ⟨0, 0, 0, 0, 0, 0, List.replicate 8 0⟩

/-- `mem::size_of::<libc::sockaddr_ll>()`. -/
def sockaddrLlSize : Nat := 20

/-- `linux::packet_mreq`, as the Rust value `channel` fills.  The struct is declared without
`#[repr(C)]`, so the bytes `setsockopt` passes to the kernel follow rustc's own field order;
the model logs the value and leaves that layout out. -/
structure PacketMreq where
  mrIfindex : Int
  mrType : UInt16
  mrAlen : UInt16
  mrAddress : List UInt8
  deriving DecidableEq, Repr

/-- `mem::zeroed()` as a `packet_mreq`. -/
def PacketMreq.zeroed : PacketMreq := ⟨0, 0, 0, List.replicate 8 0⟩

/-- `mem::size_of::<linux::packet_mreq>()`. -/
def packetMreqSize : Nat := 16

/-- `std::net::Ipv4Addr`: the four octets, `a.b.c.d`. -/
structure Ipv4Addr where
  a : UInt8
  b : UInt8
  c : UInt8
  d : UInt8
  deriving DecidableEq, Repr

/-- `Ipv4Addr::new`. -/
def Ipv4Addr.new (a b c d : UInt8) : Ipv4Addr := ⟨a, b, c, d⟩

/-- `std::net::Ipv6Addr`: its sixteen octets. -/
structure Ipv6Addr where
  octets : List UInt8
  deriving DecidableEq, Repr

/-- `std::net::IpAddr`. -/
inductive IpAddr
  | v4 (ip : Ipv4Addr)
  | v6 (ip : Ipv6Addr)
  deriving DecidableEq, Repr

/-! ### The host state -/

/-- A `libc::fd_set`, as the list of its members. -/
abbrev FdSet := List Nat

/-- Which set of `pselect` a half passes its `fd_set` as: `readfds` or `writefds`. -/
inductive Direction
  | read
  | write
  deriving DecidableEq, Repr

/-- A system call with the arguments the channel passes. -/
inductive Syscall
  | socket (domain type protocol : Int)
  | bind (socket : Nat) (address : SockaddrLl) (addressLen : Nat)
  | setsockopt (socket : Nat) (level name : Int) (value : PacketMreq) (optionLen : Nat)
  | fcntl (fd : Nat) (cmd arg : Int)
  | close (fd : Nat)
  | pselect (nfds : Nat) (dir : Direction) (set : FdSet) (timeout : Option Timespec)
  | sendto (socket : Nat) (buffer : List UInt8) (address : SockaddrLl) (addressLen : Nat)
  | recvfrom (socket : Nat) (bufferLen : Nat)
  deriving DecidableEq, Repr

/-- What the channel changes of the host: the open descriptors, and the calls made so far,
oldest first. -/
structure Os where
  fds : List Nat
  log : List Syscall
  deriving DecidableEq, Repr

namespace Os

variable (os : Os)

/-- The host after the call `c`, which changes no descriptor. -/
def record (c : Syscall) : Os := { os with log := os.log ++ [c] }

/-- `libc::socket`: a new descriptor is open when it succeeds. -/
def socket (domain type protocol : Int) : Answer Nat → Answer Nat × Os
  | .ok fd => (.ok fd, { fds := fd :: os.fds, log := os.log ++ [.socket domain type protocol] })
  | .fail errno => (.fail errno, os.record (.socket domain type protocol))

/-- `sockets::close`: the descriptor is released whatever `close` answers. -/
def close (fd : Nat) : Os := { fds := os.fds.erase fd, log := os.log ++ [.close fd] }

@[simp] theorem record_fds (c : Syscall) : (os.record c).fds = os.fds := rfl
@[simp] theorem record_log (c : Syscall) : (os.record c).log = os.log ++ [c] := rfl
@[simp] theorem close_fds (fd : Nat) : (os.close fd).fds = os.fds.erase fd := rfl
@[simp] theorem close_log (fd : Nat) : (os.close fd).log = os.log ++ [.close fd] := rfl

end Os

/-- The kernel's side of a `recvfrom` of `datagram` into `buffer`: the front of the buffer
receives as much of the datagram as fits, and that count is returned. -/
def recvInto (buffer datagram : List UInt8) : Nat × List UInt8 :=
  (min datagram.length buffer.length, overwrite buffer 0 (datagram.take buffer.length))

/-- The front of the buffer after a `recvfrom` holds what was received. -/
theorem take_recvInto (buffer datagram : List UInt8) :
    (recvInto buffer datagram).2.take (recvInto buffer datagram).1 =
      datagram.take buffer.length := by
  have hlen : (datagram.take buffer.length).length = min datagram.length buffer.length := by
    rw [List.length_take]; exact Nat.min_comm _ _
  simp [recvInto, overwrite_zero, List.take_left' hlen]

/-- The frame `next` slices out of the buffer, `read_buffer[0..len]`, is what was received. -/
theorem index_recvInto (buffer datagram : List UInt8) :
    (Field.mk 0 (recvInto buffer datagram).1).index (recvInto buffer datagram).2 =
      some (datagram.take buffer.length) := by
  have hbuf : 0 + (datagram.take buffer.length).length ≤ buffer.length := by simp
  rw [Field.index_eq (by simp [Field.Fits, recvInto, length_overwrite hbuf]), List.drop_zero,
    Field.len, Nat.sub_zero, take_recvInto]

/-! ### `pselect` -/

/-- What happens while `pselect` waits: the descriptors `fds` are ready for the direction it
asks about before the timeout expires (with no timeout: ever), or the call fails (with
`EINTR` when a signal comes first). -/
inductive Wait
  | ready (fds : List Nat)
  | fail (errno : Nat)
  deriving DecidableEq, Repr

/-- `pselect` on one set, as Linux runs it: the answer and the set it leaves, or `none` when
it waits for ever. -/
def pselect (set : FdSet) (timeout : Option Timespec) (w : Wait) :
    Option (Answer Nat × FdSet) :=
  if timeout.all (fun t => decide t.Valid) then
    match w with
    | .fail errno => some (.fail errno, set)
    | .ready fds =>
      match set.filter (fun fd => decide (fd ∈ fds)) with
      | [] => if timeout.isSome then some (.ok 0, []) else none
      | ready => some (.ok ready.length, ready)
  else some (.fail EINVAL, set)

/-! ### `internal::retry` -/

namespace Internal

/-- `internal::retry`: make `call` again while the host answers `EINTR`.  `none` when the
host's answers run out while the loop still retries. -/
def retry {α : Type} (call : Syscall) : List (Answer α) → Os → Option (Answer α) × Os
  | [], os => (none, os)
  | ret :: rest, os =>
    if ret.interrupted then retry call rest (os.record call) else (some ret, os.record call)

/-- **`retry` returns the first answer that is not an interruption**, after one call per
answer up to it. -/
theorem retry_eq {α : Type} (call : Syscall) :
    ∀ (answers : List (Answer α)) (os : Os),
      (retry call answers os).1 = (answers.dropWhile (·.interrupted)).head? ∧
      (retry call answers os).2.fds = os.fds
  | [], _ => ⟨rfl, rfl⟩
  | ret :: rest, os => by
    unfold retry
    cases h : ret.interrupted
    · simp [List.dropWhile_cons, h]
    · simpa [List.dropWhile_cons, h] using retry_eq call rest (os.record call)

@[simp] theorem retry_fst {α : Type} (call : Syscall) (answers : List (Answer α)) (os : Os) :
    (retry call answers os).1 = (answers.dropWhile (·.interrupted)).head? :=
  (retry_eq call answers os).1

/-- What `retry` returns is never an interruption. -/
theorem not_interrupted_of_head {α : Type} {answers : List (Answer α)} {ret : Answer α}
    (h : (answers.dropWhile (·.interrupted)).head? = some ret) : ret.interrupted = false := by
  have := List.head?_dropWhile_not (·.interrupted) answers
  rwa [h] at this

end Internal

/-! ### What `pselect` can do -/

section Pselect

variable {set set' : FdSet} {timeout : Option Timespec} {w : Wait} {ret : Answer Nat}

/-- A timeout `pselect` accepts, or none. -/
def TimeoutValid (timeout : Option Timespec) : Prop := ∀ t, timeout = some t → t.Valid

theorem timeoutValid_iff : TimeoutValid timeout ↔ timeout.all (fun t => decide t.Valid) := by
  cases timeout <;> simp [TimeoutValid]

/-- **Everything a returning `pselect` can do**: reject the timeout, fail and leave the set
alone, or overwrite the set by its ready members and return their number (none of them only
when a timeout expires). -/
theorem pselect_cases (h : pselect set timeout w = some (ret, set')) :
    (¬ TimeoutValid timeout ∧ ret = .fail EINVAL ∧ set' = set) ∨
    (TimeoutValid timeout ∧ ∃ e, w = .fail e ∧ ret = .fail e ∧ set' = set) ∨
    (TimeoutValid timeout ∧ ∃ fds, w = .ready fds ∧
      set' = set.filter (fun fd => decide (fd ∈ fds)) ∧ ret = .ok set'.length ∧
      (set' = [] → timeout.isSome)) := by
  unfold pselect at h
  simp only [timeoutValid_iff]
  split at h
  · next hv =>
    split at h
    · next e => simp at h; exact .inr (.inl ⟨hv, e, rfl, h.1.symm, h.2.symm⟩)
    · next fds =>
      refine .inr (.inr ⟨hv, fds, rfl, ?_⟩)
      split at h
      · next hf => split at h <;> simp_all
      · next hf =>
        simp only [Option.some.injEq, Prod.mk.injEq] at h
        obtain ⟨rfl, rfl⟩ := h
        exact ⟨rfl, rfl, fun h' => absurd h' hf⟩
  · next hv => simp at h; exact .inl ⟨hv, h.1.symm, h.2.symm⟩

/-- On a set of at most one descriptor, `pselect` empties the set exactly when it returns `0`,
and otherwise leaves it as it was. -/
theorem pselect_set (hs : set.length ≤ 1) (h : pselect set timeout w = some (ret, set')) :
    set' = if ret = .ok 0 then [] else set := by
  rcases pselect_cases h with
    ⟨-, rfl, rfl⟩ | ⟨-, e, -, rfl, rfl⟩ | ⟨-, fds, -, rfl, rfl, -⟩
  · simp
  · simp
  · match set, hs with
    | [], _ => simp
    | [fd], _ => by_cases hfd : fd ∈ fds <;> simp [hfd]

/-- `pselect` rejects a timeout it cannot read with `EINVAL` and leaves the set alone. -/
theorem pselect_invalid (ht : ¬ TimeoutValid timeout) :
    pselect set timeout w = some (.fail EINVAL, set) := by
  rw [timeoutValid_iff] at ht
  simp [pselect, ht]

/-- A set that has lost its descriptor stays empty: with a valid timeout `pselect` returns
`0`, or the failure of the wait. -/
theorem pselect_empty {t : Timespec} (ht : t.Valid) (w : Wait) :
    pselect [] (some t) w = some (match w with | .ready _ => .ok 0 | .fail e => .fail e, []) := by
  cases w <;> simp [pselect, ht]

/-- With its descriptor in the set and ready, `pselect` reports it. -/
theorem pselect_ready {fd : Nat} {fds : List Nat} (ht : TimeoutValid timeout) (hset : fd ∈ set)
    (hready : fd ∈ fds) :
    ∃ n set', pselect set timeout (.ready fds) = some (.ok (n + 1), set') := by
  rw [timeoutValid_iff] at ht
  have hne : set.filter (fun fd => decide (fd ∈ fds)) ≠ [] :=
    List.ne_nil_of_mem (List.mem_filter.2 ⟨hset, by simpa using hready⟩)
  obtain ⟨x, xs, hx⟩ := List.exists_cons_of_ne_nil hne
  exact ⟨xs.length, x :: xs, by simp [pselect, ht, hx]⟩

end Pselect

end LinkLayer.DataLink
