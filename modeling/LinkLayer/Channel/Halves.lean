import LinkLayer.Channel.Open

/-!
# The two halves of a channel

Each call of a half waits in `pselect` for the socket, with the `fd_set` the half keeps from
call to call, then transfers one frame: `send_to` with `sendto`, `next` with `recvfrom`, each
under `internal::retry`.  `pselect` overwrites the set it is given, and `channel` fills it only
once, so what one call's wait leaves is what the next call waits on.

* `timeout_empties_fdSet` — along every run of either half, the set holds the socket until a
  call times out and is empty from then on; and a half whose set is empty answers every later
  call with `TimedOut` (or the failure of the wait), even when its socket is ready.
* `next_panics_on_short_frame` — once the socket is readable and `recvfrom` delivers a frame,
  `next` panics exactly when fewer than the 14 header bytes arrived, and otherwise returns
  exactly the bytes received.
* `eintr_only_from_pselect` — the result of a call depends only on the first answer of
  `sendto` or `recvfrom` that is not an interruption, and a half returns `EINTR` exactly when
  its `pselect` is interrupted, which is never retried.
* `no_timeout_keeps_fdSet` — without a timeout no call times out, and the set keeps the
  socket along every run;
* `overlong_timeout_fails_every_call` — a timeout of `2 ^ 63` seconds or more, which
  `duration_to_timespec` turns negative, makes every call of the half fail with `EINVAL`.

The step lemmas are stated once for `awaitSocket`, the wait both halves share, and the run
lemmas follow from them by induction on the run.
-/

namespace LinkLayer.DataLink

open LinkLayer.Ether

/-- The host's side of one call of a half: what happens during its `pselect` wait, and its
answers to the successive `sendto` or `recvfrom` calls of `retry`. -/
structure CallHost (α : Type) where
  wait : Wait
  answers : List (Answer α)

/-- The `pselect` wait that starts both `send_to` and `next`, on the half's set passed as
`dir`'s set: `-1` gives the OS error, `0` gives `TimedOut`, a positive count lets the call go
on.  Returns the set `pselect` leaves, or `none` when the wait never ends. -/
def awaitSocket (dir : Direction) (socket : Nat) (fdSet : FdSet) (timeout : Option Timespec)
    (w : Wait) (os : Os) : Option (Except IoError Unit × FdSet) × Os :=
  ((pselect fdSet timeout w).map fun
      | (.fail errno, set) => (.error (.os errno), set)
      | (.ok 0, set) => (.error .timedOut, set)
      | (.ok _, set) => (.ok (), set),
    os.record (.pselect (socket + 1) dir fdSet timeout))

/-- `internal::send_to`: `sendto` the whole buffer under `retry`; `-1` gives the OS error. -/
def Internal.sendTo (socket : Nat) (buffer : List UInt8) (dst : SockaddrLl) (slen : Nat)
    (answers : List (Answer Nat)) (os : Os) : Option (Except IoError Nat) × Os :=
  let sent := Internal.retry (.sendto socket buffer dst slen) answers os
  (sent.1.map fun
      | .fail errno => .error (.os errno)
      | .ok sendLen => .ok sendLen, sent.2)

/-- `internal::recv_from`: `recvfrom` into the whole buffer under `retry`; `-1` gives the OS
error, otherwise the count of bytes received and the buffer holding them. -/
def Internal.recvFrom (socket : Nat) (buffer : List UInt8) (answers : List (Answer (List UInt8)))
    (os : Os) : Option (Except IoError Nat × List UInt8) × Os :=
  let received := Internal.retry (.recvfrom socket buffer.length) answers os
  (received.1.map fun
      | .fail errno => (.error (.os errno), buffer)
      | .ok datagram => (.ok (recvInto buffer datagram).1, (recvInto buffer datagram).2), received.2)

/-- `DataLinkSenderImpl::send_to`. -/
def DataLinkSenderImpl.sendTo (s : DataLinkSenderImpl) (packet : EthernetPacket)
    (host : CallHost Nat) (os : Os) : Exit (Option (Except IoError Unit)) × DataLinkSenderImpl × Os :=
  match awaitSocket .write s.socket s.fdSet s.timeout host.wait os with
  | (none, os) => (.waits, s, os)
  | (some (.error e, fdSet), os) => (.returns (some (.error e)), { s with fdSet }, os)
  | (some (.ok (), fdSet), os) =>
    match Internal.sendTo s.socket packet.packet s.sendAddr s.sendAddrLen host.answers os with
    | (none, os) => (.waits, { s with fdSet }, os)
    | (some (.error e), os) => (.returns (some (.error e)), { s with fdSet }, os)
    | (some (.ok _), os) => (.returns (some (.ok ())), { s with fdSet }, os)

/-- `DataLinkChannelIteratorImpl::next` on the receiver it borrows. -/
def DataLinkReceiverImpl.next (r : DataLinkReceiverImpl) (host : CallHost (List UInt8))
    (os : Os) : Exit (Except IoError EthernetPacket) × DataLinkReceiverImpl × Os :=
  match awaitSocket .read r.socket r.fdSet r.timeout host.wait os with
  | (none, os) => (.waits, r, os)
  | (some (.error e, fdSet), os) => (.returns (.error e), { r with fdSet }, os)
  | (some (.ok (), fdSet), os) =>
    match Internal.recvFrom r.socket r.readBuffer host.answers os with
    | (none, os) => (.waits, { r with fdSet }, os)
    | (some (.error e, readBuffer), os) => (.returns (.error e), { r with fdSet, readBuffer }, os)
    | (some (.ok len, readBuffer), os) =>
      -- `EthernetPacket::new(&self.pc.read_buffer[0..len]).unwrap()`
      match ((Field.mk 0 len).index readBuffer).bind EthernetPacket.new with
      | none => (.panics, { r with fdSet, readBuffer }, os)
      | some packet => (.returns (.ok packet), { r with fdSet, readBuffer }, os)

/-- A run of calls of a half, stopped at the first call that does not return: the results of
the calls that returned, and the half and the host after the run. -/
def runCalls {σ ι ρ : Type} (call : σ → ι → Os → Exit ρ × σ × Os) :
    σ → List ι → Os → List ρ × σ × Os
  | s, [], os => ([], s, os)
  | s, i :: is, os =>
    match call s i os with
    | (.returns r, s, os) =>
      let run := runCalls call s is os
      (r :: run.1, run.2)
    | (_, s, os) => ([], s, os)

/-- A run of `send_to` calls on one sender, each with its frame and the host's side of it. -/
def DataLinkSenderImpl.sendAll (s : DataLinkSenderImpl) (calls : List (EthernetPacket × CallHost Nat))
    (os : Os) : List (Option (Except IoError Unit)) × DataLinkSenderImpl × Os :=
  runCalls (fun s c os => s.sendTo c.1 c.2 os) s calls os

/-- A run of `next` calls on one receiver, each with the host's side of it. -/
def DataLinkReceiverImpl.nextAll (r : DataLinkReceiverImpl) (calls : List (CallHost (List UInt8)))
    (os : Os) : List (Except IoError EthernetPacket) × DataLinkReceiverImpl × Os :=
  runCalls (fun r h os => r.next h os) r calls os

/-- The error a call returns when its `pselect` finds nothing of its set ready: the failure of
the wait, or `TimedOut` when the timeout expires. -/
def waitError : Wait → IoError
  | .ready _ => .timedOut
  | .fail errno => .os errno

/-! ### The wait -/

section Await

variable {dir : Direction} {socket : Nat} {fdSet set : FdSet} {timeout : Option Timespec}
  {w : Wait} {os : Os} {res : Except IoError Unit}

@[simp] theorem awaitSocket_snd :
    (awaitSocket dir socket fdSet timeout w os).2 =
      os.record (.pselect (socket + 1) dir fdSet timeout) := rfl

/-- On a set of at most one descriptor, the wait empties the set exactly when it times out. -/
theorem awaitSocket_set (hs : fdSet.length ≤ 1)
    (h : (awaitSocket dir socket fdSet timeout w os).1 = some (res, set)) :
    set = if res = .error .timedOut then [] else fdSet := by
  obtain ⟨⟨ret, set'⟩, hp, hr⟩ := Option.map_eq_some'.1 h
  have hset := pselect_set hs hp
  rcases ret with (_ | n) | e <;> simp only [Prod.mk.injEq] at hr <;> obtain ⟨rfl, rfl⟩ := hr <;>
    simp [hset, IoError.timedOut]

/-- A set that has lost its descriptor makes every wait fail: with `TimedOut` when the
timeout expires, whether or not the socket is ready. -/
theorem awaitSocket_empty {t : Timespec} (ht : t.Valid) :
    awaitSocket dir socket [] (some t) w os =
      (some (.error (waitError w), []), os.record (.pselect (socket + 1) dir [] (some t))) := by
  cases w <;> simp [awaitSocket, pselect_empty ht, waitError]

/-- A timeout `pselect` cannot read fails every wait with `EINVAL` and keeps the set. -/
theorem awaitSocket_invalid (ht : ¬ TimeoutValid timeout) :
    (awaitSocket dir socket fdSet timeout w os).1 = some (.error (.os EINVAL), fdSet) := by
  simp [awaitSocket, pselect_invalid ht]

/-- Without a timeout the wait never times out: `pselect` returns `0` only when one expires. -/
theorem awaitSocket_none_ne_timedOut :
    (awaitSocket dir socket fdSet none w os).1 ≠ some (.error .timedOut, set) := by
  intro h
  obtain ⟨⟨ret, set'⟩, hp, hr⟩ := Option.map_eq_some'.1 h
  rcases pselect_cases hp with ⟨hv, -, -⟩ | ⟨-, e, -, rfl, -⟩ | ⟨-, fds, -, rfl, rfl, hne⟩
  · exact hv fun _ h => by cases h
  · simp [IoError.timedOut] at hr
  · obtain ⟨n, hn⟩ := Nat.exists_eq_succ_of_ne_zero fun h0 =>
      by simpa using hne (List.length_eq_zero.1 h0)
    simp [hn] at hr

/-- The wait returns `EINTR` exactly when `pselect` is interrupted. -/
theorem awaitSocket_eintr :
    (∃ set, (awaitSocket dir socket fdSet timeout w os).1 = some (.error (.os EINTR), set)) ↔
      w = .fail EINTR ∧ TimeoutValid timeout := by
  constructor
  · rintro ⟨set, h⟩
    obtain ⟨⟨ret, set'⟩, hp, hr⟩ := Option.map_eq_some'.1 h
    rcases pselect_cases hp with
      ⟨-, rfl, -⟩ | ⟨hv, e, rfl, rfl, -⟩ | ⟨-, fds, -, -, rfl, -⟩
    · simp [EINVAL, EINTR] at hr
    · simp at hr; exact ⟨by rw [hr.1], hv⟩
    · split at hr <;> simp_all [IoError.timedOut]
  · rintro ⟨rfl, hv⟩
    refine ⟨fdSet, ?_⟩
    rw [timeoutValid_iff] at hv
    simp [awaitSocket, pselect, hv]

/-- With its socket in the set and ready, the wait lets the call go on. -/
theorem awaitSocket_ready {fds : List Nat} (ht : TimeoutValid timeout) (hset : socket ∈ fdSet)
    (hready : socket ∈ fds) :
    ∃ set, (awaitSocket dir socket fdSet timeout (.ready fds) os).1 = some (.ok (), set) := by
  obtain ⟨n, set', h⟩ := pselect_ready ht hset hready
  exact ⟨set', by simp [awaitSocket, h]⟩

end Await

/-! ### One call of a half -/

theorem Internal.sendTo_fst (socket : Nat) (buffer : List UInt8) (dst : SockaddrLl) (slen : Nat)
    (answers : List (Answer Nat)) (os : Os) :
    (Internal.sendTo socket buffer dst slen answers os).1 =
      (answers.dropWhile (·.interrupted)).head?.map fun
        | .fail errno => .error (.os errno)
        | .ok sendLen => .ok sendLen := by
  simp [Internal.sendTo]

/-- `internal::send_to` fails only with an OS error. -/
theorem Internal.sendTo_ne_timedOut (socket : Nat) (buffer : List UInt8) (dst : SockaddrLl)
    (slen : Nat) (answers : List (Answer Nat)) (os : Os) :
    (Internal.sendTo socket buffer dst slen answers os).1 ≠ some (.error .timedOut) := by
  rw [Internal.sendTo_fst]
  generalize (answers.dropWhile (·.interrupted)).head? = ret
  rcases ret with _ | _ | _ <;> simp [IoError.timedOut]

namespace DataLinkSenderImpl

variable (s : DataLinkSenderImpl) (packet : EthernetPacket) (host : CallHost Nat) (os : Os)

/-- **What `send_to` returns**: the failure of its wait, or else the outcome of the first
`sendto` answer that is not an interruption. -/
theorem sendTo_fst :
    (s.sendTo packet host os).1 =
      match (awaitSocket .write s.socket s.fdSet s.timeout host.wait os).1 with
      | none => .waits
      | some (.error e, _) => .returns (some (.error e))
      | some (.ok (), _) =>
        match (host.answers.dropWhile (·.interrupted)).head? with
        | none => .waits
        | some (.fail errno) => .returns (some (.error (.os errno)))
        | some (.ok _) => .returns (some (.ok ())) := by
  unfold sendTo
  generalize awaitSocket .write s.socket s.fdSet s.timeout host.wait os = p
  obtain ⟨_ | ⟨_ | ⟨⟨⟩⟩, set⟩, os'⟩ := p
  · rfl
  · rfl
  · dsimp only
    have hfst := Internal.sendTo_fst s.socket packet.packet s.sendAddr s.sendAddrLen
      host.answers os'
    generalize Internal.sendTo s.socket packet.packet s.sendAddr s.sendAddrLen host.answers os' = q
      at hfst
    obtain ⟨r, os''⟩ := q
    subst hfst
    generalize (host.answers.dropWhile (·.interrupted)).head? = ret
    rcases ret with _ | _ | _ <;> rfl

/-- `send_to` empties the set of a sender exactly when it times out. -/
theorem sendTo_fdSet (hs : s.fdSet.length ≤ 1) :
    (s.sendTo packet host os).2.1.fdSet =
      if (s.sendTo packet host os).1 = .returns (some (.error .timedOut)) then [] else s.fdSet := by
  have hset := fun res set =>
    @awaitSocket_set .write s.socket s.fdSet set s.timeout host.wait os res hs
  unfold sendTo
  generalize awaitSocket .write s.socket s.fdSet s.timeout host.wait os = p at hset
  obtain ⟨_ | ⟨e | ⟨⟨⟩⟩, set⟩, os'⟩ := p
  · simp
  · simpa using hset _ _ rfl
  · have h := hset _ _ rfl
    simp only [reduceCtorEq, if_false] at h
    subst h
    clear hset
    dsimp only
    have hne := Internal.sendTo_ne_timedOut s.socket packet.packet s.sendAddr s.sendAddrLen
      host.answers os'
    generalize Internal.sendTo s.socket packet.packet s.sendAddr s.sendAddrLen host.answers os' = q
      at hne
    obtain ⟨_ | _ | _, os''⟩ := q <;> simp_all

/-- From an empty set and a valid timeout, `send_to` fails with the error of its wait, and the
set stays empty. -/
theorem sendTo_empty {t : Timespec} (hs : s.fdSet = []) (ht : s.timeout = some t) (hv : t.Valid) :
    (s.sendTo packet host os).1 = .returns (some (.error (waitError host.wait))) ∧
      (s.sendTo packet host os).2.1.fdSet = [] := by
  unfold sendTo
  rw [hs, ht, awaitSocket_empty hv]
  exact ⟨rfl, rfl⟩

/-- `send_to` changes nothing of a sender but its set. -/
theorem sendTo_frame :
    (s.sendTo packet host os).2.1 = { s with fdSet := (s.sendTo packet host os).2.1.fdSet } := by
  unfold sendTo
  split
  · rfl
  · rfl
  · split <;> rfl

/-- `send_to` never changes the timeout of a sender. -/
theorem sendTo_timeout : (s.sendTo packet host os).2.1.timeout = s.timeout := by
  rw [sendTo_frame]

/-- Under a timeout `pselect` rejects, `send_to` fails with `EINVAL`. -/
theorem sendTo_invalid (ht : ¬ TimeoutValid s.timeout) :
    (s.sendTo packet host os).1 = .returns (some (.error (.os EINVAL))) := by
  rw [sendTo_fst, awaitSocket_invalid ht]

/-- Without a timeout, `send_to` never returns `TimedOut`. -/
theorem sendTo_ne_timedOut_of_none (ht : s.timeout = none) :
    (s.sendTo packet host os).1 ≠ .returns (some (.error .timedOut)) := by
  have hw := fun set => @awaitSocket_none_ne_timedOut .write s.socket s.fdSet set host.wait os
  rw [sendTo_fst, ht]
  generalize (awaitSocket .write s.socket s.fdSet none host.wait os).1 = a at hw
  rcases a with _ | ⟨_ | ⟨⟨⟩⟩, set⟩
  · simp
  · simpa using hw set
  · dsimp only
    split <;> simp [IoError.timedOut]

end DataLinkSenderImpl

theorem Internal.recvFrom_fst (socket : Nat) (buffer : List UInt8)
    (answers : List (Answer (List UInt8))) (os : Os) :
    (Internal.recvFrom socket buffer answers os).1 =
      (answers.dropWhile (·.interrupted)).head?.map fun
        | .fail errno => (.error (.os errno), buffer)
        | .ok datagram => (.ok (recvInto buffer datagram).1, (recvInto buffer datagram).2) := by
  simp [Internal.recvFrom]

/-- `internal::recv_from` fails only with an OS error. -/
theorem Internal.recvFrom_ne_timedOut (socket : Nat) (buffer : List UInt8)
    (answers : List (Answer (List UInt8))) (os : Os) (buffer' : List UInt8) :
    (Internal.recvFrom socket buffer answers os).1 ≠ some (.error .timedOut, buffer') := by
  rw [Internal.recvFrom_fst]
  generalize (answers.dropWhile (·.interrupted)).head? = ret
  rcases ret with _ | _ | _ <;> simp [IoError.timedOut]

namespace DataLinkReceiverImpl

variable (r : DataLinkReceiverImpl) (host : CallHost (List UInt8)) (os : Os)

/-- **What `next` returns**: the failure of its wait, or else the outcome of the first
`recvfrom` answer that is not an interruption, where a frame shorter than the header panics in
`unwrap`. -/
theorem next_fst :
    (r.next host os).1 =
      match (awaitSocket .read r.socket r.fdSet r.timeout host.wait os).1 with
      | none => .waits
      | some (.error e, _) => .returns (.error e)
      | some (.ok (), _) =>
        match (host.answers.dropWhile (·.interrupted)).head? with
        | none => .waits
        | some (.fail errno) => .returns (.error (.os errno))
        | some (.ok datagram) =>
          match EthernetPacket.new (datagram.take r.readBuffer.length) with
          | none => .panics
          | some packet => .returns (.ok packet) := by
  unfold next
  generalize awaitSocket .read r.socket r.fdSet r.timeout host.wait os = p
  obtain ⟨_ | ⟨_ | ⟨⟨⟩⟩, set⟩, os'⟩ := p
  · rfl
  · rfl
  · dsimp only
    have hfst := Internal.recvFrom_fst r.socket r.readBuffer host.answers os'
    generalize Internal.recvFrom r.socket r.readBuffer host.answers os' = q at hfst
    obtain ⟨res, os''⟩ := q
    subst hfst
    generalize (host.answers.dropWhile (·.interrupted)).head? = ret
    rcases ret with _ | datagram | _
    · rfl
    · simp only [Option.map_some']
      rw [index_recvInto, Option.some_bind]
      split <;> rfl
    · rfl

/-- `next` empties the set of a receiver exactly when it times out. -/
theorem next_fdSet (hs : r.fdSet.length ≤ 1) :
    (r.next host os).2.1.fdSet =
      if (r.next host os).1 = .returns (.error .timedOut) then [] else r.fdSet := by
  have hset := fun res set =>
    @awaitSocket_set .read r.socket r.fdSet set r.timeout host.wait os res hs
  unfold next
  generalize awaitSocket .read r.socket r.fdSet r.timeout host.wait os = p at hset
  obtain ⟨_ | ⟨e | ⟨⟨⟩⟩, set⟩, os'⟩ := p
  · simp
  · simpa using hset _ _ rfl
  · have h := hset _ _ rfl
    simp only [reduceCtorEq, if_false] at h
    subst h
    clear hset
    dsimp only
    have hne := Internal.recvFrom_ne_timedOut r.socket r.readBuffer host.answers os'
    generalize Internal.recvFrom r.socket r.readBuffer host.answers os' = q at hne
    obtain ⟨_ | ⟨_ | _, buffer⟩, os''⟩ := q
    · simp
    · simp_all
    · dsimp only
      split <;> simp

/-- After a wait that lets it go on and a datagram from `recvfrom`, the read buffer holds the
datagram at its front. -/
theorem next_readBuffer {set : FdSet} {datagram : List UInt8}
    (ha : (awaitSocket .read r.socket r.fdSet r.timeout host.wait os).1 = some (.ok (), set))
    (hd : (host.answers.dropWhile (·.interrupted)).head? = some (.ok datagram)) :
    (r.next host os).2.1.readBuffer = (recvInto r.readBuffer datagram).2 := by
  unfold next
  rw [show awaitSocket .read r.socket r.fdSet r.timeout host.wait os = (some (.ok (), set), _) from
    Prod.ext ha rfl]
  dsimp only
  rw [show Internal.recvFrom r.socket r.readBuffer host.answers _ =
      (some (.ok (recvInto r.readBuffer datagram).1, (recvInto r.readBuffer datagram).2), _) from
    Prod.ext (by rw [Internal.recvFrom_fst, hd]; rfl) rfl]
  dsimp only
  split <;> rfl

/-- From an empty set and a valid timeout, `next` fails with the error of its wait, and the
set stays empty. -/
theorem next_empty {t : Timespec} (hs : r.fdSet = []) (ht : r.timeout = some t) (hv : t.Valid) :
    (r.next host os).1 = .returns (.error (waitError host.wait)) ∧
      (r.next host os).2.1.fdSet = [] := by
  unfold next
  rw [hs, ht, awaitSocket_empty hv]
  exact ⟨rfl, rfl⟩

/-- `next` changes nothing of a receiver but its set and its read buffer. -/
theorem next_frame :
    (r.next host os).2.1 =
      { r with
        fdSet := (r.next host os).2.1.fdSet
        readBuffer := (r.next host os).2.1.readBuffer } := by
  unfold next
  split
  · rfl
  · rfl
  · split
    · rfl
    · rfl
    · split <;> rfl

/-- `next` never changes the timeout of a receiver. -/
theorem next_timeout : (r.next host os).2.1.timeout = r.timeout := by
  rw [next_frame]

/-- Under a timeout `pselect` rejects, `next` fails with `EINVAL`. -/
theorem next_invalid (ht : ¬ TimeoutValid r.timeout) :
    (r.next host os).1 = .returns (.error (.os EINVAL)) := by
  rw [next_fst, awaitSocket_invalid ht]

/-- Without a timeout, `next` never returns `TimedOut`. -/
theorem next_ne_timedOut_of_none (ht : r.timeout = none) :
    (r.next host os).1 ≠ .returns (.error .timedOut) := by
  have hw := fun set => @awaitSocket_none_ne_timedOut .read r.socket r.fdSet set host.wait os
  rw [next_fst, ht]
  generalize (awaitSocket .read r.socket r.fdSet none host.wait os).1 = a at hw
  rcases a with _ | ⟨_ | ⟨⟨⟩⟩, set⟩
  · simp
  · simpa using hw set
  · dsimp only
    split
    · simp
    · simp [IoError.timedOut]
    · split <;> simp

end DataLinkReceiverImpl

/-! ### Runs -/

section Runs

variable {σ ι ρ : Type} (call : σ → ι → Os → Exit ρ × σ × Os)

/-- **A run empties a set that each call empties on one result.**  If a call empties a set of
at most one descriptor exactly when it returns `bad`, and leaves it alone otherwise, then a run
leaves the set empty exactly when one of its results is `bad`. -/
theorem runCalls_set [DecidableEq ρ] (set : σ → FdSet) (bad : ρ)
    (hstep : ∀ s i os, (set s).length ≤ 1 →
      set (call s i os).2.1 = if (call s i os).1 = .returns bad then [] else set s) :
    ∀ s is os, (set s).length ≤ 1 →
      set (runCalls call s is os).2.1 = if bad ∈ (runCalls call s is os).1 then [] else set s
  | _, [], _, _ => by simp [runCalls]
  | s, i :: is, os, hs => by
    have h := hstep s i os hs
    unfold runCalls
    split
    · next r s' os' hc =>
      rw [hc] at h
      have hs' : (set s').length ≤ 1 := by simp only at h; split at h <;> simp [h, hs]
      simp only at h ⊢
      rw [runCalls_set set bad hstep s' is os' hs', h]
      by_cases hr : r = bad
      · simp [hr]
      · simp [hr, Ne.symm hr]
    · next e s' os' hne hc =>
      rw [hc] at h
      simpa [if_neg (hne bad)] using h

/-- **A run along which every call returns a fixed result.**  If, from the states `Q` holds
of, every call returns `f` of its input and keeps `Q`, a run returns `f` of every input. -/
theorem runCalls_of_inv (Q : σ → Prop) (f : ι → ρ)
    (hstep : ∀ s i os, Q s → (call s i os).1 = .returns (f i) ∧ Q (call s i os).2.1) :
    ∀ s is os, Q s → (runCalls call s is os).1 = is.map f
  | _, [], _, _ => rfl
  | s, i :: is, os, hs => by
    obtain ⟨hr, hq⟩ := hstep s i os hs
    unfold runCalls
    split
    · next r s' os' hc =>
      rw [hc] at hr hq
      simp only [Exit.returns.injEq] at hr
      simp [hr, runCalls_of_inv Q f hstep s' is os' hq]
    · next e s' os' hne hc =>
      rw [hc] at hr
      exact absurd hr (hne _)

/-- **What every result of a run satisfies.**  If, from the states `Q` holds of, every call
keeps `Q` and returns only results `P` holds of, then `P` holds of every result of a run. -/
theorem runCalls_forall (Q : σ → Prop) (P : ρ → Prop)
    (hstep : ∀ s i os, Q s → (∀ r, (call s i os).1 = .returns r → P r) ∧ Q (call s i os).2.1) :
    ∀ s is os, Q s → ∀ r ∈ (runCalls call s is os).1, P r
  | _, [], _, _ => by simp [runCalls]
  | s, i :: is, os, hs => by
    obtain ⟨hr, hq⟩ := hstep s i os hs
    unfold runCalls
    split
    · next r s' os' hc =>
      rw [hc] at hr hq
      simp only [List.mem_cons, forall_eq_or_imp]
      exact ⟨hr r rfl, runCalls_forall Q P hstep s' is os' hq⟩
    · simp

end Runs

/-- Along a run of a sender whose set holds at most one descriptor, the set is emptied exactly
when a call of the run times out. -/
theorem DataLinkSenderImpl.sendAll_fdSet (s : DataLinkSenderImpl)
    (calls : List (EthernetPacket × CallHost Nat)) (os : Os) (hs : s.fdSet.length ≤ 1) :
    (s.sendAll calls os).2.1.fdSet =
      if some (.error .timedOut) ∈ (s.sendAll calls os).1 then [] else s.fdSet := by
  have h := runCalls_set _ (·.fdSet) _ (fun s c os h => s.sendTo_fdSet c.1 c.2 os h) s calls os hs
  convert h

/-- Along a run of a receiver whose set holds at most one descriptor, the set is emptied
exactly when a call of the run times out. -/
theorem DataLinkReceiverImpl.nextAll_fdSet (r : DataLinkReceiverImpl)
    (calls : List (CallHost (List UInt8))) (os : Os) (hs : r.fdSet.length ≤ 1) :
    (r.nextAll calls os).2.1.fdSet =
      if .error .timedOut ∈ (r.nextAll calls os).1 then [] else r.fdSet := by
  have h := runCalls_set _ (·.fdSet) _ (fun r h os hr => r.next_fdSet h os hr) r calls os hs
  convert h

/-! ### The halves along whole runs -/

/-- **A timeout disarms a half for good.**  Along every run of a half as `channel` opens it,
with its set holding just its socket, the set each `pselect` is given holds the socket until a
call of the run has timed out, and is empty from then on.  And a half whose set is empty, with
a valid timeout, answers every call of every run with the failure of its wait: `TimedOut`
whenever the wait itself does not fail, even when its socket is ready. -/
theorem timeout_empties_fdSet :
    (∀ (s : DataLinkSenderImpl) calls os, s.fdSet = [s.socket] →
      (s.sendAll calls os).2.1.fdSet =
        if some (.error .timedOut) ∈ (s.sendAll calls os).1 then [] else [s.socket]) ∧
    (∀ (s : DataLinkSenderImpl) t calls os, s.fdSet = [] → s.timeout = some t → t.Valid →
      (s.sendAll calls os).1 = calls.map fun c => some (.error (waitError c.2.wait))) ∧
    (∀ (r : DataLinkReceiverImpl) calls os, r.fdSet = [r.socket] →
      (r.nextAll calls os).2.1.fdSet =
        if .error .timedOut ∈ (r.nextAll calls os).1 then [] else [r.socket]) ∧
    (∀ (r : DataLinkReceiverImpl) t calls os, r.fdSet = [] → r.timeout = some t → t.Valid →
      (r.nextAll calls os).1 = calls.map fun h => .error (waitError h.wait)) := by
  refine ⟨fun s calls os hs => ?_, fun s t calls os hs ht hv => ?_,
    fun r calls os hs => ?_, fun r t calls os hs ht hv => ?_⟩
  · rw [← hs]
    exact s.sendAll_fdSet calls os (by simp [hs])
  · refine runCalls_of_inv _ (fun s => s.fdSet = [] ∧ s.timeout = some t) _ ?_ s calls os
      ⟨hs, ht⟩
    rintro s c os ⟨h1, h2⟩
    obtain ⟨hr, hf⟩ := s.sendTo_empty c.1 c.2 os h1 h2 hv
    exact ⟨hr, hf, (s.sendTo_timeout c.1 c.2 os).trans h2⟩
  · rw [← hs]
    exact r.nextAll_fdSet calls os (by simp [hs])
  · refine runCalls_of_inv _ (fun r => r.fdSet = [] ∧ r.timeout = some t) _ ?_ r calls os
      ⟨hs, ht⟩
    rintro r h os ⟨h1, h2⟩
    obtain ⟨hr, hf⟩ := r.next_empty h os h1 h2 hv
    exact ⟨hr, hf, (r.next_timeout h os).trans h2⟩

/-- A 42-byte frame. -/
def frame42 : EthernetPacket := ⟨List.replicate 42 0, by decide⟩

/-- A sender whose 10 ms write timeout has expired once: its set is empty. -/
def expiredSender : DataLinkSenderImpl :=
  { socket := 3, fdSet := [], writeBuffer := [], channelType := .layer2,
    sendAddr := SockaddrLl.zeroed, sendAddrLen := sockaddrLlSize, timeout := some ⟨0, 10000000⟩ }

theorem timeout_empties_fdSet_expiredSender :
    (expiredSender.sendAll [(frame42, ⟨.ready [3], [.ok 42]⟩)] ⟨[3], []⟩).1 =
      [some (.error .timedOut)] :=
  timeout_empties_fdSet.2.1 expiredSender _ _ _ rfl rfl (by decide)

/-- **`next` panics on a short frame.**  Once the receiver's socket is in its set and ready,
with a valid timeout, and the first `recvfrom` answer that is not an interruption delivers a
datagram, `recv_from` returns the length `len` of what fits in the read buffer.  `next` then
panics in `unwrap` exactly when `len` is below the 14 header bytes; otherwise it returns the
frame `read_buffer[0..len]`, which holds exactly the bytes received. -/
theorem next_panics_on_short_frame (r : DataLinkReceiverImpl) (fds : List Nat)
    (answers : List (Answer (List UInt8))) (datagram : List UInt8) (os : Os)
    (hset : r.socket ∈ r.fdSet) (hready : r.socket ∈ fds) (ht : TimeoutValid r.timeout)
    (hd : (answers.dropWhile (·.interrupted)).head? = some (.ok datagram)) :
    ((r.next ⟨.ready fds, answers⟩ os).1 = .panics ↔
      min datagram.length r.readBuffer.length < minimumPacketSize) ∧
    (∀ v, (r.next ⟨.ready fds, answers⟩ os).1 = .returns (.ok v) ↔
      minimumPacketSize ≤ min datagram.length r.readBuffer.length ∧
      v.packet = datagram.take r.readBuffer.length) ∧
    (r.next ⟨.ready fds, answers⟩ os).2.1.readBuffer.take
      (min datagram.length r.readBuffer.length) = datagram.take r.readBuffer.length := by
  obtain ⟨set, ha⟩ := @awaitSocket_ready .read r.socket r.fdSet r.timeout os fds ht hset hready
  have hlen : (datagram.take r.readBuffer.length).length =
      min datagram.length r.readBuffer.length := by
    rw [List.length_take]; exact Nat.min_comm _ _
  have hres := r.next_fst ⟨.ready fds, answers⟩ os
  simp only [ha, hd, EthernetPacket.new] at hres
  refine ⟨?_, fun v => ?_, by rw [r.next_readBuffer _ _ ha hd, ← take_recvInto]; rfl⟩ <;>
    by_cases hm : minimumPacketSize ≤ (datagram.take r.readBuffer.length).length
  · rw [dif_pos hm] at hres
    simp only [hres, reduceCtorEq, false_iff, not_lt]
    rwa [← hlen]
  · rw [dif_neg hm] at hres
    simp only [hres, true_iff]
    rwa [← hlen, ← not_le]
  · rw [dif_pos hm] at hres
    rw [hres, ← hlen]
    constructor
    · rintro ⟨⟩; exact ⟨hm, rfl⟩
    · obtain ⟨pk, hpk⟩ := v
      rintro ⟨-, hv⟩
      simp only at hv
      subst hv
      rfl
  · rw [dif_neg hm] at hres
    simp only [hres, reduceCtorEq, false_iff, not_and]
    rw [← hlen]
    exact fun h => absurd h hm

/-- A receiver with a 64-byte read buffer, as `channel` opens it without a read timeout. -/
def smallReceiver : DataLinkReceiverImpl :=
  { socket := 3, fdSet := [3], readBuffer := List.replicate 64 0, channelType := .layer2,
    timeout := none }

theorem next_panics_on_short_frame_tenBytes :
    (smallReceiver.next ⟨.ready [3], [.fail EINTR, .ok (List.replicate 10 0)]⟩ ⟨[3], []⟩).1 =
      .panics :=
  (next_panics_on_short_frame smallReceiver [3] [.fail EINTR, .ok (List.replicate 10 0)]
    (List.replicate 10 0) ⟨[3], []⟩ (by decide) (by decide) (fun _ h => by cases h) rfl).1.2
    (by decide)

/-- **Interrupted calls are retried, but an interrupted wait is not.**  The result of a call
of either half depends only on the first answer of `sendto` or `recvfrom` that is not an
interruption, however many come before it; and a half returns `EINTR` exactly when its
`pselect` is interrupted (under a timeout `pselect` accepts). -/
theorem eintr_only_from_pselect :
    (∀ (s : DataLinkSenderImpl) packet w (a₁ a₂ : List (Answer Nat)) os,
      (a₁.dropWhile (·.interrupted)).head? = (a₂.dropWhile (·.interrupted)).head? →
      (s.sendTo packet ⟨w, a₁⟩ os).1 = (s.sendTo packet ⟨w, a₂⟩ os).1) ∧
    (∀ (r : DataLinkReceiverImpl) w (a₁ a₂ : List (Answer (List UInt8))) os,
      (a₁.dropWhile (·.interrupted)).head? = (a₂.dropWhile (·.interrupted)).head? →
      (r.next ⟨w, a₁⟩ os).1 = (r.next ⟨w, a₂⟩ os).1) ∧
    (∀ (s : DataLinkSenderImpl) packet host os,
      (s.sendTo packet host os).1 = .returns (some (.error (.os EINTR))) ↔
        host.wait = .fail EINTR ∧ TimeoutValid s.timeout) ∧
    (∀ (r : DataLinkReceiverImpl) host os,
      (r.next host os).1 = .returns (.error (.os EINTR)) ↔
        host.wait = .fail EINTR ∧ TimeoutValid r.timeout) := by
  refine ⟨fun s packet w a₁ a₂ os h => ?_, fun r w a₁ a₂ os h => ?_,
    fun s packet host os => ?_, fun r host os => ?_⟩
  · simp only [DataLinkSenderImpl.sendTo_fst, h]
  · simp only [DataLinkReceiverImpl.next_fst, h]
  · have hni : ∀ ret, (host.answers.dropWhile (·.interrupted)).head? = some ret →
        ret.interrupted = false := fun _ => Internal.not_interrupted_of_head
    rw [DataLinkSenderImpl.sendTo_fst, ← @awaitSocket_eintr .write s.socket s.fdSet s.timeout]
    generalize (awaitSocket .write s.socket s.fdSet s.timeout host.wait os).1 = a
    generalize (host.answers.dropWhile (·.interrupted)).head? = hd at hni
    rcases a with _ | ⟨_ | ⟨⟨⟩⟩, set⟩ <;> rcases hd with _ | _ | e <;>
      simp_all [Answer.interrupted, EINTR]
  · have hni : ∀ ret, (host.answers.dropWhile (·.interrupted)).head? = some ret →
        ret.interrupted = false := fun _ => Internal.not_interrupted_of_head
    rw [DataLinkReceiverImpl.next_fst, ← @awaitSocket_eintr .read r.socket r.fdSet r.timeout]
    generalize (awaitSocket .read r.socket r.fdSet r.timeout host.wait os).1 = a
    generalize (host.answers.dropWhile (·.interrupted)).head? = hd at hni
    rcases a with _ | ⟨_ | ⟨⟨⟩⟩, set⟩ <;> rcases hd with _ | _ | e <;>
      simp_all [Answer.interrupted, EINTR]
    split <;> simp

/-- A sender as `channel` opens it without a write timeout. -/
def freshSender : DataLinkSenderImpl := { expiredSender with fdSet := [3], timeout := none }

theorem eintr_only_from_pselect_interrupted :
    (freshSender.sendTo frame42 ⟨.fail EINTR, []⟩ ⟨[3], []⟩).1 =
      .returns (some (.error (.os EINTR))) :=
  (eintr_only_from_pselect.2.2.1 freshSender frame42 ⟨.fail EINTR, []⟩ ⟨[3], []⟩).2
    ⟨rfl, fun _ h => by cases h⟩

/-- **A timeout of `2 ^ 63` seconds or more disables its half.**  `channel` stores such a
timeout as a `timespec` with negative seconds, which `pselect` rejects with `EINVAL`; the half
keeps it, so every call of every run of the half fails with `EINVAL`, whatever the host does. -/
theorem overlong_timeout_fails_every_call (host : Endian) (ni : NetworkInterface)
    (config : Config) (answers : SetupAnswers) (os : Os) (s : DataLinkSenderImpl)
    (r : DataLinkReceiverImpl)
    (h : (channel host ni config answers os).1 = .returns (.ok (.ethernet s r))) :
    (∀ d, config.writeTimeout = some d → 2 ^ 63 ≤ d.asSecs.toNat →
      ∀ calls os', (s.sendAll calls os').1 = calls.map fun _ => some (.error (.os EINVAL))) ∧
    (∀ d, config.readTimeout = some d → 2 ^ 63 ≤ d.asSecs.toNat →
      ∀ calls os', (r.nextAll calls os').1 = calls.map fun _ => .error (.os EINVAL)) := by
  obtain ⟨hs, hr⟩ := channel_timeouts h
  have hinv : ∀ d, 2 ^ 63 ≤ d.asSecs.toNat →
      ¬ TimeoutValid (some (Internal.durationToTimespec d)) :=
    fun d hd hv => absurd ((durationToTimespec_valid_iff d).1 (hv _ rfl)) (by omega)
  refine ⟨fun d hw hd calls os' => ?_, fun d hw hd calls os' => ?_⟩
  · refine runCalls_of_inv _ (fun s => ¬ TimeoutValid s.timeout) _ ?_ s calls os'
      (by dsimp only; rw [hs, hw]; exact hinv d hd)
    intro s c os hs
    exact ⟨s.sendTo_invalid c.1 c.2 os hs, by dsimp only; rwa [s.sendTo_timeout]⟩
  · refine runCalls_of_inv _ (fun r => ¬ TimeoutValid r.timeout) _ ?_ r calls os'
      (by dsimp only; rw [hr, hw]; exact hinv d hd)
    intro r c os hr
    exact ⟨r.next_invalid c os hr, by dsimp only; rwa [r.next_timeout]⟩

theorem overlong_timeout_fails_every_call_max :
    ∃ s r, (channel .little eth0 { Config.default with writeTimeout := some Duration.MAX }
        ⟨.ok 3, .ok 0, .ok 0, .ok 0⟩ ⟨[], []⟩).1 = .returns (.ok (.ethernet s r)) ∧
      (s.sendAll [(frame42, ⟨.ready [3], [.ok 42]⟩)] ⟨[3], []⟩).1 = [some (.error (.os EINVAL))] :=
  ⟨_, _, rfl, (overlong_timeout_fails_every_call .little eth0
    { Config.default with writeTimeout := some Duration.MAX } ⟨.ok 3, .ok 0, .ok 0, .ok 0⟩
    ⟨[], []⟩ _ _ rfl).1 Duration.MAX rfl (by decide) _ _⟩

/-- **Without a timeout a half never loses its socket.**  Along every run of a half as
`channel` opens it without a timeout, `pselect` never returns `0`, so no call returns
`TimedOut` and the set each `pselect` is given keeps holding the socket. -/
theorem no_timeout_keeps_fdSet :
    (∀ (s : DataLinkSenderImpl) calls os, s.fdSet = [s.socket] → s.timeout = none →
      some (.error .timedOut) ∉ (s.sendAll calls os).1 ∧
        (s.sendAll calls os).2.1.fdSet = [s.socket]) ∧
    (∀ (r : DataLinkReceiverImpl) calls os, r.fdSet = [r.socket] → r.timeout = none →
      .error .timedOut ∉ (r.nextAll calls os).1 ∧
        (r.nextAll calls os).2.1.fdSet = [r.socket]) := by
  refine ⟨fun s calls os hs ht => ?_, fun r calls os hs ht => ?_⟩
  · have hno : some (.error .timedOut) ∉ (s.sendAll calls os).1 := fun hmem =>
      runCalls_forall _ (fun s => s.timeout = none) (· ≠ some (.error .timedOut))
        (fun s c os h => ⟨fun _ hr hbad => s.sendTo_ne_timedOut_of_none c.1 c.2 os h (hbad ▸ hr),
          (s.sendTo_timeout c.1 c.2 os).trans h⟩) s calls os ht _ hmem rfl
    rw [s.sendAll_fdSet calls os (by simp [hs]), if_neg hno, hs]
    exact ⟨hno, rfl⟩
  · have hno : .error .timedOut ∉ (r.nextAll calls os).1 := fun hmem =>
      runCalls_forall _ (fun r => r.timeout = none) (· ≠ .error .timedOut)
        (fun r c os h => ⟨fun _ hr hbad => r.next_ne_timedOut_of_none c os h (hbad ▸ hr),
          (r.next_timeout c os).trans h⟩) r calls os ht _ hmem rfl
    rw [r.nextAll_fdSet calls os (by simp [hs]), if_neg hno, hs]
    exact ⟨hno, rfl⟩

theorem no_timeout_keeps_fdSet_freshSender :
    some (.error .timedOut) ∉ (freshSender.sendAll
        [(frame42, ⟨.ready [3], [.fail EINTR, .ok 42]⟩), (frame42, ⟨.ready [3], [.ok 42]⟩)]
        ⟨[3], []⟩).1 ∧
      (freshSender.sendAll
        [(frame42, ⟨.ready [3], [.fail EINTR, .ok 42]⟩), (frame42, ⟨.ready [3], [.ok 42]⟩)]
        ⟨[3], []⟩).2.1.fdSet = [3] :=
  no_timeout_keeps_fdSet.1 freshSender _ _ rfl rfl

end LinkLayer.DataLink
