import BatmanAdv.Lib.Run
import BatmanAdv.Lib.Table
import BatmanAdv.Main

set_option relaxedAutoImplicit false
set_option autoImplicit false

/-!
# The cache of the distributed ARP table

`distributed-arp-table.c` keeps the hardware addresses that belong to IP addresses in a hash table.
The bucket is computed from the IP address and the VLAN, but in a bucket the entries are told apart
by their IP addresses alone: VLANs whose hashes collide share an entry.

## Main definitions

* `Batadv.hashDat` — `batadv_hash_dat`.
* `Batadv.datEntryHashFind`, `Batadv.datEntryAdd`, `Batadv.datPurge` — the functions of the table.
* `Batadv.DatTracked` — the table with what was last added for each IP address and VLAN.
* `Batadv.DatEvent.Apart` — an addition that shares no entry with an IP address and VLAN.

## Main results

* `Batadv.DatTracked.Inv.step` — what a step makes of the entry for an IP address and VLAN.
* `Batadv.dat_cache_is_map` — what is found is what was last added and has not timed out.
-/

namespace Batadv

/-! ### The hash -/

/-- What `batadv_hash_dat` does with a byte of the key. -/
def hashDatByte (hash : U32) (key : U8) : U32 :=
  let hash := hash + key.setWidth 32
  let hash := hash + (hash <<< 10)
  hash ^^^ (hash >>> 6)

/-- `batadv_hash_dat`: the bytes of the IP address and of the VLAN, in network order. -/
def hashDat (ip : U32) (vid : U16) (size : U32) : U32 :=
  let hash := [ip.extractLsb' 24 8, ip.extractLsb' 16 8, ip.extractLsb' 8 8,
    ip.extractLsb' 0 8].foldl hashDatByte 0
  let hash := [vid.extractLsb' 8 8, vid.extractLsb' 0 8].foldl hashDatByte hash
  let hash := hash + (hash <<< 3)
  let hash := hash ^^^ (hash >>> 11)
  let hash := hash + (hash <<< 15)
  hash % size

/-! ### The table -/

/-- `struct batadv_dat_entry`. -/
structure DatEntry where
  ip : U32
  macAddr : EthAddr
  vid : U16
  lastUpdate : Jiffies
deriving DecidableEq, Repr

/-- `struct batadv_priv_dat` with the clock: the entries by the buckets they are in, and by the IP
addresses that `batadv_compare_dat` tells them apart by. -/
structure DatCache where
  jiffies : Jiffies
  hash : Table (U32 × U32) DatEntry
deriving DecidableEq, Repr

/-- The number of buckets. -/
def DAT_HASH_SIZE : U32 := 1024

/-- `BATADV_DAT_ENTRY_TIMEOUT`: five minutes in milliseconds. -/
def DAT_ENTRY_TIMEOUT : ℕ := 5 * 60000

/-- Where an entry for an IP address and a VLAN is: in its bucket, under the IP address. -/
def datSlot (ip : U32) (vid : U16) : U32 × U32 := (hashDat ip vid DAT_HASH_SIZE, ip)

/-- `batadv_dat_entry_hash_find`, without the reference that it takes. -/
def datEntryHashFind (s : DatCache) (ip : U32) (vid : U16) : Option DatEntry :=
  s.hash.get (datSlot ip vid)

/-- `batadv_dat_entry_add`; `alloc` says whether there is memory for a new entry. -/
def datEntryAdd (s : DatCache) (ip : U32) (macAddr : EthAddr) (vid : U16) (alloc : Bool) :
    DatCache :=
  match datEntryHashFind s ip vid with
  | some datEntry =>
    -- if this entry is already known, just update it
    let datEntry := { datEntry with macAddr := macAddr, lastUpdate := s.jiffies }
    { s with hash := s.hash.set (datSlot ip vid) datEntry }
  | none =>
    if !alloc then s
    else { s with hash := s.hash.set (datSlot ip vid) ⟨ip, macAddr, vid, s.jiffies⟩ }

/-- `batadv_dat_to_purge`. -/
def datToPurge (msecsToJiffies : ℕ → Jiffies) (jiffies : Jiffies) (datEntry : DatEntry) : Bool :=
  hasTimedOut msecsToJiffies jiffies datEntry.lastUpdate DAT_ENTRY_TIMEOUT

/-- `batadv_dat_purge`. -/
def datPurge (msecsToJiffies : ℕ → Jiffies) (s : DatCache) : DatCache :=
  { s with hash := s.hash.filter fun e => !datToPurge msecsToJiffies s.jiffies e.2 }

/-! ### Runs -/

/-- A step: the clock ticks, an entry is added, there being memory for it, or the old entries are
purged. -/
inductive DatEvent
  | tick
  | add (ip : U32) (macAddr : EthAddr) (vid : U16)
  | purge
deriving DecidableEq, Repr

/-- The table, and for each IP address and VLAN what was added for exactly these last, and when,
unless that has timed out since and was purged. -/
structure DatTracked where
  cache : DatCache
  added : U32 → U16 → Option (EthAddr × Jiffies)

variable (msecsToJiffies : ℕ → Jiffies)

/-- The table after a step. -/
def datStep (s : DatCache) : DatEvent → DatCache
  | .tick => { s with jiffies := s.jiffies + 1 }
  | .add ip macAddr vid => datEntryAdd s ip macAddr vid true
  | .purge => datPurge msecsToJiffies s

/-- The state after a step. -/
def DatTracked.step (t : DatTracked) (e : DatEvent) : DatTracked where
  cache := datStep msecsToJiffies t.cache e
  added ip vid :=
    match e with
    | .tick => t.added ip vid
    | .add ip' macAddr vid' =>
      if ip = ip' ∧ vid = vid' then some (macAddr, t.cache.jiffies) else t.added ip vid
    | .purge => (t.added ip vid).filter fun a =>
        !hasTimedOut msecsToJiffies t.cache.jiffies a.2 DAT_ENTRY_TIMEOUT

/-- The entry for what was added. -/
def datEntryOf (ip : U32) (vid : U16) (added : EthAddr × Jiffies) : DatEntry :=
  ⟨ip, added.1, vid, added.2⟩

/-- **An addition that shares no entry** with an IP address and a VLAN: it is not for the same IP
address in another VLAN with the same bucket. -/
def DatEvent.Apart (ip : U32) (vid : U16) : DatEvent → Prop
  | .add ip' _ vid' => datSlot ip' vid' = datSlot ip vid → vid' = vid
  | _ => True

instance DatEvent.decidableApart (ip : U32) (vid : U16) (e : DatEvent) :
    Decidable (e.Apart ip vid) :=
  match e with
  | .add ip' _ vid' => inferInstanceAs (Decidable (datSlot ip' vid' = datSlot ip vid → vid' = vid))
  | .tick | .purge => .isTrue trivial

/-- **The invariant** for an IP address and a VLAN: their entry is what was added for them last. -/
structure DatTracked.Inv (ip : U32) (vid : U16) (t : DatTracked) : Prop where
  keys : (t.cache.hash.map Prod.fst).Nodup
  entry : datEntryHashFind t.cache ip vid = (t.added ip vid).map (datEntryOf ip vid)

/-- Adding an entry. -/
lemma hash_datEntryAdd (s : DatCache) (ip : U32) (macAddr : EthAddr) (vid : U16) :
    (datEntryAdd s ip macAddr vid true).hash = s.hash.set (datSlot ip vid)
      (((datEntryHashFind s ip vid).map fun e =>
        { e with macAddr := macAddr, lastUpdate := s.jiffies }).getD
          ⟨ip, macAddr, vid, s.jiffies⟩) := by
  unfold datEntryAdd
  cases datEntryHashFind s ip vid <;> rfl

variable {msecsToJiffies} in
/-- **A step** that shares no entry with the IP address and VLAN. -/
theorem DatTracked.Inv.step {ip : U32} {vid : U16} {t : DatTracked} (h : t.Inv ip vid)
    {e : DatEvent} (he : e.Apart ip vid) : (t.step msecsToJiffies e).Inv ip vid := by
  obtain ⟨hkeys, hentry⟩ := h
  cases e with
  | tick => exact ⟨hkeys, hentry⟩
  | add ip' macAddr vid' =>
    have hhash := hash_datEntryAdd t.cache ip' macAddr vid'
    constructor
    · show ((datEntryAdd t.cache ip' macAddr vid' true).hash.map Prod.fst).Nodup
      rw [hhash]
      exact Table.nodup_set hkeys _ _
    · show (datEntryAdd t.cache ip' macAddr vid' true).hash.get (datSlot ip vid) = _
      rw [hhash]
      by_cases hslot : datSlot ip vid = datSlot ip' vid'
      · -- the entry itself
        obtain rfl : vid' = vid := he hslot.symm
        obtain rfl : ip = ip' := congrArg Prod.snd hslot
        rw [Table.get_set_self, hentry]
        show _ = (if ip = ip ∧ vid' = vid' then some (macAddr, t.cache.jiffies) else _).map _
        rw [if_pos ⟨rfl, rfl⟩]
        cases t.added ip vid' <;> rfl
      · rw [Table.get_set_of_ne _ _ hslot]
        refine hentry.trans (congrArg _ (if_neg ?_).symm)
        rintro ⟨rfl, rfl⟩
        exact hslot rfl
  | purge =>
    constructor
    · exact (List.filter_sublist.map _).nodup hkeys
    · show Table.get (t.cache.hash.filter _) (datSlot ip vid) = _
      rw [Table.get_filter hkeys]
      change (datEntryHashFind t.cache ip vid).filter _ = _
      rw [hentry]
      show _ = ((t.added ip vid).filter _).map _
      cases hadded : t.added ip vid with
      | none => rfl
      | some a =>
        -- the entry times out when the addition does
        cases htimeout : hasTimedOut msecsToJiffies t.cache.jiffies a.2 DAT_ENTRY_TIMEOUT <;>
          simp [Option.filter, datToPurge, datEntryOf, htimeout]

/-- **What is found for an IP address and a VLAN is what was last added for exactly these** and has
not timed out, in every state of a run in which no addition shares their entry. -/
theorem dat_cache_is_map (msecsToJiffies : ℕ → Jiffies) (jiffies : Jiffies) (ip : U32) (vid : U16)
    {events : List DatEvent}
    (hevents : Run.AllSteps (DatTracked.step msecsToJiffies) (fun _ e => e.Apart ip vid)
      ⟨⟨jiffies, []⟩, fun _ _ => none⟩ events) :
    ∀ t ∈ Run.states (DatTracked.step msecsToJiffies) ⟨⟨jiffies, []⟩, fun _ _ => none⟩ events,
      datEntryHashFind t.cache ip vid = (t.added ip vid).map (datEntryOf ip vid) := by
  intro t ht
  have hinit : DatTracked.Inv ip vid ⟨⟨jiffies, []⟩, fun _ _ => none⟩ := ⟨List.nodup_nil, rfl⟩
  exact (Run.AllSteps.forall_mem_states (DatTracked.Inv ip vid) (fun _ _ h he => h.step he) hinit
    hevents t ht).entry

/-- An entry that is updated by another addition, and times out. -/
theorem dat_cache_is_map_updated :
    let msecsToJiffies : ℕ → Jiffies := fun ms => BitVec.ofNat 64 (ms / 100000)
    ∀ t ∈ Run.states (DatTracked.step msecsToJiffies) ⟨⟨1000, []⟩, fun _ _ => none⟩
        [.add 0xC0A80001 0x0200000000AA 0x8001, .tick, .add 0xC0A80001 0x0200000000BB 0x8001,
          .add 0xC0A80001 0x0200000000CC 0x8002, .tick, .tick, .tick, .tick, .purge],
      datEntryHashFind t.cache 0xC0A80001 0x8001 =
        (t.added 0xC0A80001 0x8001).map (datEntryOf 0xC0A80001 0x8001) :=
  dat_cache_is_map (fun ms => BitVec.ofNat 64 (ms / 100000)) 1000 0xC0A80001 0x8001
    (by decide +kernel)

/-- VLANs 1 and 2106 have the same bucket for 192.168.0.1: what is added for the one is found for
the other. -/
theorem dat_cache_is_no_map :
    let t := Run.final (DatTracked.step fun ms => BitVec.ofNat 64 ms)
      ⟨⟨1000, []⟩, fun _ _ => none⟩ [.add 0xC0A80001 0x0200000000AA 0x8001]
    datEntryHashFind t.cache 0xC0A80001 0x883A ≠
      (t.added 0xC0A80001 0x883A).map (datEntryOf 0xC0A80001 0x883A) := by
  decide +kernel

/-- The second VLAN's address is stored in the entry of the first one. -/
example :
    let s := [DatEvent.add 0xC0A80001 0x0200000000AA 0x8001,
      .add 0xC0A80001 0x0200000000BB 0x883A].foldl (datStep fun ms => BitVec.ofNat 64 ms) ⟨1000, []⟩
    datEntryHashFind s 0xC0A80001 0x8001 = some ⟨0xC0A80001, 0x0200000000BB, 0x8001, 1000⟩ := by
  decide +kernel

end Batadv
