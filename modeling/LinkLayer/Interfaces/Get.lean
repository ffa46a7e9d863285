import LinkLayer.Interfaces.Sockaddr
import Mathlib.Data.List.Dedup

/-!
# `get_interfaces`: one record per interface name

`getifaddrs` lists one entry per address of each interface, so an interface with a hardware
address and two IP addresses appears three times, under one name.  The `while` loop of
`get_interfaces` folds the entries into one `NetworkInterface` per name.  An entry whose name
is already recorded is `merge`d into that record; any other entry is pushed as a new record.
A last pass then sets each record's `index` by `if_nametoindex`.

The loop body is `visit`, the loop is `collect`, and `groupByName` is the reference the loop is
compared with.  That reference says, per name, what the record must hold: the last MAC address
given, the IP addresses in visiting order (`None` when there are none), and the OR of all flags.

* `visit_eq` — one step of the loop: every record of the entry's name is merged, and the entry
  is pushed when there is none;
* `groupByName_snoc` — the reference over one more entry is one step of the loop over the
  reference;
* `interfaces_loop_groupBy` — for every list of entries the loop builds exactly the reference,
  with pairwise distinct names, and `collect` builds it from whatever `getifaddrs` lists;
* `getInterfaces_indexes` — `get_interfaces` never panics: the names come from C strings, so
  `CString::new` always succeeds, and each record of the reference gets its `if_nametoindex`.
-/

namespace LinkLayer.Interfaces

open LinkLayer.Ether LinkLayer.DataLink

/-- One entry of the list `getifaddrs` returns: the interface name (the bytes before the NUL
of the C string, so it holds no NUL), the address `ifa_addr` points to (`none`: a null
pointer), and `ifa_flags`. -/
structure Ifaddrs where
  ifaName : String
  ifaAddr : Option SockaddrStorage
  ifaFlags : UInt32
  nul_free : Char.ofNat 0 ∉ ifaName.toList

/-- What the `while` loop takes from one entry: its name, the MAC and IP addresses
`sockaddr_to_network_addr` reads from it, and its flags. -/
structure IfEntry where
  name : String
  mac : Option MacAddr
  ip : Option IpAddr
  flags : UInt32
  deriving DecidableEq, Repr

/-- The `NetworkInterface` the loop builds from one entry, before any merge. -/
def IfEntry.toInterface (e : IfEntry) : NetworkInterface :=
  { name := e.name, index := 0, mac := e.mac, ips := e.ip.map fun ip => [ip], flags := e.flags }

/-- `merge(old, new)`: a MAC address of `new` replaces that of `old`, the IP addresses of `new`
are appended to those of `old`, and the flags are OR-ed. -/
def merge (old new : NetworkInterface) : NetworkInterface :=
  { old with
    mac := (match new.mac with
      | none => old.mac
      | _ => new.mac)
    ips := (match old.ips, new.ips with
      | some oldIps, some newIps => some (oldIps ++ newIps)
      | none, some newIps => some newIps
      | _, _ => old.ips)
    flags := old.flags ||| new.flags }

/-- `for iface in &mut ifaces { if name == iface.name { merge(iface, &ni); found = true; } }`:
the records after the loop, and `found`. -/
def mergeEach (ni : NetworkInterface) : List NetworkInterface → List NetworkInterface × Bool
  | [] => ([], false)
  | iface :: rest =>
    let r := mergeEach ni rest
    if ni.name = iface.name then (merge iface ni :: r.1, true) else (iface :: r.1, r.2)

/-- The body of the `while` loop for one entry: merge its record into every record of the
same name, and push it when there was none. -/
def visit (ifaces : List NetworkInterface) (e : IfEntry) : List NetworkInterface :=
  let r := mergeEach e.toInterface ifaces
  if r.2 then r.1 else r.1 ++ [e.toInterface]

/-- The `while !addr.is_null()` loop over the `getifaddrs` list; `none` is a panic. -/
def collect (host : Endian) :
    List Ifaddrs → List NetworkInterface → Option (List NetworkInterface)
  | [], ifaces => some ifaces
  | addr :: rest, ifaces =>
    (sockaddrToNetworkAddr host addr.ifaAddr).bind fun (mac, ip) =>
      collect host rest (visit ifaces ⟨addr.ifaName, mac, ip, addr.ifaFlags⟩)

/-- `CString::new(bytes)`: `none` is its `NulError`, for bytes holding a NUL. -/
def cStringNew (bytes : String) : Option String :=
  if Char.ofNat 0 ∈ bytes.toList then none else some bytes

/-- `get_interfaces`.  `addrs` is what `getifaddrs` returns (`none`: it failed) and
`ifNametoindex` is the host's `if_nametoindex`.  `none` is a panic: of `sockaddr_to_addr`, or
of the `unwrap` of `CString::new` in the last pass. -/
def getInterfaces (host : Endian) (addrs : Option (List Ifaddrs))
    (ifNametoindex : String → UInt32) : Option (List NetworkInterface) :=
  match addrs with
  | none => some []
  | some addrs =>
    (collect host addrs []).bind fun ifaces =>
      ifaces.mapM fun iface =>
        (cStringNew iface.name).map fun name => { iface with index := ifNametoindex name }

@[simp] theorem IfEntry.toInterface_name (e : IfEntry) : e.toInterface.name = e.name := rfl

/-! ### The reference -/

/-- The record the reference gives the name `name`: the entries of that name, in visiting
order, give the last MAC address among them, their IP addresses (`None` when there are none)
and the OR of their flags. -/
def groupRecord (entries : List IfEntry) (name : String) : NetworkInterface :=
  let group := entries.filter (·.name == name)
  let ips := group.filterMap (·.ip)
  { name, index := 0, mac := (group.filterMap (·.mac)).getLast?,
    ips := if ips = [] then none else some ips,
    flags := group.foldl (fun acc e => acc ||| e.flags) 0 }

/-- The reference group-by: one record per distinct name, in the order of first occurrence. -/
def groupByName (entries : List IfEntry) : List NetworkInterface :=
  (entries.map (·.name)).reverse.dedup.reverse.map (groupRecord entries)

/-! ### One step of the loop -/

/-- Merging `ni` into `r` when the names agree, as the `for` loop does to each record. -/
def mergeInto (ni r : NetworkInterface) : NetworkInterface :=
  if ni.name = r.name then merge r ni else r

theorem mergeEach_eq (ni : NetworkInterface) :
    ∀ ifaces, mergeEach ni ifaces = (ifaces.map (mergeInto ni), ifaces.any (ni.name == ·.name))
  | [] => rfl
  | iface :: rest => by
    by_cases h : ni.name = iface.name <;> simp [mergeEach, mergeEach_eq ni rest, mergeInto, h]

/-- **One step of the loop**: every record of the entry's name is merged with the entry, and
the entry is pushed when no record has its name. -/
theorem visit_eq (ifaces : List NetworkInterface) (e : IfEntry) :
    visit ifaces e = ifaces.map (mergeInto e.toInterface) ++
      if ifaces.any (e.name == ·.name) then [] else [e.toInterface] := by
  rw [visit, mergeEach_eq, IfEntry.toInterface_name]
  cases ifaces.any (e.name == ·.name) <;> simp

/-! ### The reference, one entry at a time -/

@[simp] theorem groupRecord_name (entries : List IfEntry) (name : String) :
    (groupRecord entries name).name = name := rfl

/-- One more entry changes only the record of its own name, as `merge` does. -/
theorem groupRecord_snoc (entries : List IfEntry) (e : IfEntry) (name : String) :
    groupRecord (entries ++ [e]) name = mergeInto e.toInterface (groupRecord entries name) := by
  unfold mergeInto
  by_cases h : e.name = name
  · subst h
    rw [if_pos (by simp)]
    have hf : (entries ++ [e]).filter (·.name == e.name) =
        entries.filter (·.name == e.name) ++ [e] := by
      simp [List.filter_append]
    simp only [groupRecord, hf, List.filterMap_append, List.foldl_append]
    generalize (entries.filter (·.name == e.name)).filterMap (·.ip) = ips
    generalize (entries.filter (·.name == e.name)).filterMap (·.mac) = macs
    by_cases hips : ips = [] <;>
      cases hm : e.mac <;> cases hi : e.ip <;> simp [merge, IfEntry.toInterface, hm, hi, hips]
  · rw [if_neg (by simpa using h)]
    simp [groupRecord, List.filter_append, h]

/-- The first entry of a name gives the record the loop pushes for it. -/
theorem groupRecord_new (entries : List IfEntry) (e : IfEntry)
    (h : e.name ∉ entries.map (·.name)) :
    groupRecord (entries ++ [e]) e.name = e.toInterface := by
  have hf : (entries ++ [e]).filter (·.name == e.name) = [e] := by
    simp only [List.mem_map, not_exists, not_and] at h
    simpa [List.filter_append, List.filter_eq_nil_iff] using h
  have hflags : (0 : UInt32) ||| e.flags = e.flags := UInt32.eq_of_toBitVec_eq BitVec.zero_or
  simp only [groupRecord, hf]
  cases hm : e.mac <;> cases hi : e.ip <;> simp [IfEntry.toInterface, hm, hi, hflags]

/-- The distinct names over one more entry: a new name goes last. -/
theorem names_snoc (entries : List IfEntry) (e : IfEntry) :
    ((entries ++ [e]).map (·.name)).reverse.dedup.reverse =
      (entries.map (·.name)).reverse.dedup.reverse ++
        if e.name ∈ entries.map (·.name) then [] else [e.name] := by
  rw [List.map_append, List.reverse_append, List.map_singleton, List.reverse_singleton,
    List.singleton_append]
  by_cases h : e.name ∈ entries.map (·.name)
  · rw [List.dedup_cons_of_mem (List.mem_reverse.2 h), if_pos h, List.append_nil]
  · rw [List.dedup_cons_of_not_mem (mt List.mem_reverse.1 h), if_neg h, List.reverse_cons]

theorem map_name_groupByName (entries : List IfEntry) :
    (groupByName entries).map (·.name) = (entries.map (·.name)).reverse.dedup.reverse := by
  simp [groupByName, List.map_map, Function.comp_def]

/-- A name has a record in the reference exactly when an entry has it. -/
theorem any_groupByName (entries : List IfEntry) (name : String) :
    (groupByName entries).any (name == ·.name) = decide (name ∈ entries.map (·.name)) := by
  rw [Bool.eq_iff_iff, List.any_eq_true, decide_eq_true_iff, ← List.mem_reverse,
    ← List.mem_dedup, ← List.mem_reverse, ← map_name_groupByName, List.mem_map]
  simp only [beq_iff_eq, @eq_comm String name]

/-- **The reference over one more entry is one step of the loop over the reference.** -/
theorem groupByName_snoc (entries : List IfEntry) (e : IfEntry) :
    groupByName (entries ++ [e]) = visit (groupByName entries) e := by
  rw [visit_eq, any_groupByName, groupByName, names_snoc, List.map_append]
  congr 1
  · rw [groupByName, List.map_map]
    exact List.map_congr_left fun name _ => groupRecord_snoc entries e name
  · by_cases h : e.name ∈ entries.map (·.name) <;> simp [h, groupRecord_new]

/-! ### The whole loop -/

/-- **The loop over any list of entries builds the reference.** -/
theorem foldl_visit (entries : List IfEntry) : entries.foldl visit [] = groupByName entries := by
  induction entries using List.reverseRecOn with
  | nil => rfl
  | append_singleton entries e ih =>
    rw [List.foldl_append, ih, List.foldl_cons, List.foldl_nil, groupByName_snoc]

theorem groupByName_names_nodup (entries : List IfEntry) :
    ((groupByName entries).map (·.name)).Nodup := by
  rw [map_name_groupByName]
  exact List.nodup_reverse.2 (List.nodup_dedup _)

theorem mem_names_of_mem_groupByName {entries : List IfEntry} {r : NetworkInterface}
    (h : r ∈ groupByName entries) : r.name ∈ entries.map (·.name) := by
  have hr := List.mem_map_of_mem (·.name) h
  rwa [map_name_groupByName, List.mem_reverse, List.mem_dedup, List.mem_reverse] at hr

/-- `e` is what the loop takes from the `getifaddrs` entry `a`: its name, its flags, and what
`sockaddr_to_network_addr` reads from its address. -/
def IfEntry.ReadFrom (host : Endian) (a : Ifaddrs) (e : IfEntry) : Prop :=
  e.name = a.ifaName ∧ e.flags = a.ifaFlags ∧
    sockaddrToNetworkAddr host a.ifaAddr = some (e.mac, e.ip)

/-- `collect` reads one entry from each `getifaddrs` entry and never panics, since
`sockaddr_to_network_addr` does not. -/
theorem collect_eq (host : Endian) : ∀ (addrs : List Ifaddrs) (ifaces : List NetworkInterface),
    ∃ entries, List.Forall₂ (IfEntry.ReadFrom host) addrs entries ∧
      collect host addrs ifaces = some (entries.foldl visit ifaces)
  | [], _ => ⟨[], .nil, rfl⟩
  | a :: rest, ifaces => by
    obtain ⟨⟨mac, ip⟩, hsa⟩ :=
      Option.isSome_iff_exists.1 (sockaddrToNetworkAddr_isSome host a.ifaAddr)
    obtain ⟨entries, hr, hc⟩ :=
      collect_eq host rest (visit ifaces ⟨a.ifaName, mac, ip, a.ifaFlags⟩)
    refine ⟨⟨a.ifaName, mac, ip, a.ifaFlags⟩ :: entries, .cons ⟨rfl, rfl, hsa⟩ hr, ?_⟩
    rw [collect, hsa, Option.some_bind]
    exact hc

theorem interfaces_loop_groupBy :
    (∀ entries : List IfEntry, entries.foldl visit [] = groupByName entries ∧
        ((entries.foldl visit []).map (·.name)).Nodup) ∧
    (∀ (host : Endian) (addrs : List Ifaddrs), ∃ entries,
        List.Forall₂ (IfEntry.ReadFrom host) addrs entries ∧
          collect host addrs [] = some (groupByName entries)) := by
  refine ⟨fun entries => ⟨foldl_visit entries, ?_⟩, fun host addrs => ?_⟩
  · rw [foldl_visit]
    exact groupByName_names_nodup entries
  · obtain ⟨entries, hr, hc⟩ := collect_eq host addrs []
    exact ⟨entries, hr, by rw [hc, foldl_visit]⟩

/-! ### The `if_nametoindex` pass -/

theorem cStringNew_of_nul_free {s : String} (h : Char.ofNat 0 ∉ s.toList) :
    cStringNew s = some s := if_neg h

/-- The names the loop reads come from C strings, so none holds a NUL. -/
theorem nul_free_of_readFrom {host : Endian} :
    ∀ {addrs : List Ifaddrs} {entries : List IfEntry},
      List.Forall₂ (IfEntry.ReadFrom host) addrs entries →
        ∀ e ∈ entries, Char.ofNat 0 ∉ e.name.toList
  | _, _, .nil => fun _ he => absurd he (List.not_mem_nil _)
  | a :: _, _, .cons hae hs => by
    rw [List.forall_mem_cons, hae.1]
    exact ⟨a.nul_free, nul_free_of_readFrom hs⟩

/-- The last pass sets every record's `index` when no name holds a NUL. -/
theorem mapM_setIndex (ifNametoindex : String → UInt32) :
    ∀ ifaces : List NetworkInterface, (∀ r ∈ ifaces, Char.ofNat 0 ∉ r.name.toList) →
      ifaces.mapM (fun iface =>
          (cStringNew iface.name).map fun name => { iface with index := ifNametoindex name }) =
        some (ifaces.map fun iface => { iface with index := ifNametoindex iface.name })
  | [], _ => rfl
  | r :: rest, h => by
    rw [List.forall_mem_cons] at h
    rw [List.mapM_cons, cStringNew_of_nul_free h.1, mapM_setIndex ifNametoindex rest h.2]
    rfl

/-- `get_interfaces` over what `getifaddrs` lists is the reference over the entries the loop
reads, each record with its `if_nametoindex`. -/
theorem getInterfaces_of_collect {host : Endian} {addrs : List Ifaddrs} {entries : List IfEntry}
    (ifNametoindex : String → UInt32) (hr : List.Forall₂ (IfEntry.ReadFrom host) addrs entries)
    (hc : collect host addrs [] = some (entries.foldl visit [])) :
    getInterfaces host (some addrs) ifNametoindex =
      some ((groupByName entries).map fun r => { r with index := ifNametoindex r.name }) := by
  rw [getInterfaces, hc, foldl_visit, Option.some_bind]
  refine mapM_setIndex ifNametoindex _ fun r hr' => ?_
  obtain ⟨e, he, hname⟩ := List.mem_map.1 (mem_names_of_mem_groupByName hr')
  exact hname ▸ nul_free_of_readFrom hr e he

theorem getInterfaces_indexes (host : Endian) (addrs : List Ifaddrs)
    (ifNametoindex : String → UInt32) :
    ∃ entries, List.Forall₂ (IfEntry.ReadFrom host) addrs entries ∧
      getInterfaces host (some addrs) ifNametoindex =
        some ((groupByName entries).map fun r => { r with index := ifNametoindex r.name }) := by
  obtain ⟨entries, hr, hc⟩ := collect_eq host addrs []
  exact ⟨entries, hr, getInterfaces_of_collect ifNametoindex hr hc⟩

/-- Every record `get_interfaces` returns is a record of the reference over the entries the
loop reads, with its `if_nametoindex`. -/
theorem mem_getInterfaces {host : Endian} {addrs : List Ifaddrs}
    {ifNametoindex : String → UInt32} {ifaces : List NetworkInterface}
    (h : getInterfaces host (some addrs) ifNametoindex = some ifaces) {iface : NetworkInterface}
    (hmem : iface ∈ ifaces) :
    ∃ entries, List.Forall₂ (IfEntry.ReadFrom host) addrs entries ∧
      ∃ r ∈ groupByName entries, iface = { r with index := ifNametoindex r.name } := by
  obtain ⟨entries, hr, hc⟩ := collect_eq host addrs []
  rw [getInterfaces_of_collect ifNametoindex hr hc, Option.some_inj] at h
  subst h
  obtain ⟨r, hr', rfl⟩ := List.mem_map.1 hmem
  exact ⟨entries, hr, r, hr', rfl⟩

/-! ### Where the IP addresses come from -/

/-- Every entry the loop takes was read from one of the `getifaddrs` entries. -/
theorem exists_readFrom_of_mem {host : Endian} {addrs : List Ifaddrs} {entries : List IfEntry}
    (h : List.Forall₂ (IfEntry.ReadFrom host) addrs entries) :
    ∀ e ∈ entries, ∃ a ∈ addrs, IfEntry.ReadFrom host a e := by
  induction h with
  | nil => exact fun _ he => absurd he (List.not_mem_nil _)
  | @cons a e _ _ hae _ ih =>
    rw [List.forall_mem_cons]
    refine ⟨⟨a, List.mem_cons_self _ _, hae⟩, fun e' he' => ?_⟩
    obtain ⟨a', ha', h'⟩ := ih e' he'
    exact ⟨a', List.mem_cons_of_mem _ ha', h'⟩

/-- The IP addresses of a record of the reference are those of the entries of its name. -/
theorem mem_ips_groupByName {entries : List IfEntry} {r : NetworkInterface}
    (hr : r ∈ groupByName entries) {ip : IpAddr} (hip : ip ∈ r.ips.getD []) :
    ∃ e ∈ entries, e.name = r.name ∧ e.ip = some ip := by
  obtain ⟨name, -, rfl⟩ := List.mem_map.1 hr
  simp only [groupRecord] at hip ⊢
  split at hip
  · exact absurd hip (List.not_mem_nil _)
  · obtain ⟨e, he, hip⟩ := List.mem_filterMap.1 hip
    obtain ⟨he, hname⟩ := List.mem_filter.1 he
    exact ⟨e, he, beq_iff_eq.1 hname, hip⟩

/-- **`get_interfaces` reports IPv4 addresses only, each read from an entry of its own
interface.**  The `AF_INET6` arm of `sockaddr_to_addr` is commented out, so an IPv6 address
takes its `Err` arm and `sockaddr_to_network_addr` reads no IP from it.  Every IP address of
every record `get_interfaces` returns is an IPv4 one, and `sockaddr_to_network_addr` read it
from a `getifaddrs` entry of the record's name. -/
theorem getInterfaces_ipv4_only {host : Endian} {addrs : List Ifaddrs}
    {ifNametoindex : String → UInt32} {ifaces : List NetworkInterface}
    (h : getInterfaces host (some addrs) ifNametoindex = some ifaces) :
    ∀ iface ∈ ifaces, ∀ ip ∈ iface.ips.getD [], (∃ v4, ip = .v4 v4) ∧
      ∃ a ∈ addrs, a.ifaName = iface.name ∧
        ∃ mac, sockaddrToNetworkAddr host a.ifaAddr = some (mac, some ip) := by
  intro iface hiface ip hip
  obtain ⟨entries, hr, r, hr', rfl⟩ := mem_getInterfaces h hiface
  obtain ⟨e, he, hname, hip'⟩ := mem_ips_groupByName hr' hip
  obtain ⟨a, ha, hname', -, hsa⟩ := exists_readFrom_of_mem hr e he
  rw [hip'] at hsa
  exact ⟨sockaddrToNetworkAddr_ipv4 hsa, a, ha, hname'.symm.trans hname, e.mac, hsa⟩

/-- `eth0` with the IPv4 address `192.168.0.1`, as `getifaddrs` lists it. -/
def eth0Ifaddrs : Ifaddrs := ⟨"eth0", some sockaddrIn8080, 0x1043, by decide⟩

theorem getInterfaces_ipv4_only_eth0 :
    getInterfaces .little (some [eth0Ifaddrs]) (fun _ => 2) =
        some [⟨"eth0", 2, none, some [.v4 (Ipv4Addr.new 192 168 0 1)], 0x1043⟩] ∧
      ∀ iface ∈ [(⟨"eth0", 2, none, some [.v4 (Ipv4Addr.new 192 168 0 1)], 0x1043⟩ :
          NetworkInterface)], ∀ ip ∈ iface.ips.getD [], (∃ v4, ip = .v4 v4) ∧
        ∃ a ∈ [eth0Ifaddrs], a.ifaName = iface.name ∧
          ∃ mac, sockaddrToNetworkAddr .little a.ifaAddr = some (mac, some ip) :=
  have h : getInterfaces .little (some [eth0Ifaddrs]) (fun _ => 2) =
      some [⟨"eth0", 2, none, some [.v4 (Ipv4Addr.new 192 168 0 1)], 0x1043⟩] := rfl
  ⟨h, getInterfaces_ipv4_only h⟩

end LinkLayer.Interfaces
