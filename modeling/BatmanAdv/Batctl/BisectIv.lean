import BatmanAdv.Lib.Table
import BatmanAdv.Main

set_option relaxedAutoImplicit false
set_option autoImplicit false

/-!
# The parsed logs of `batctl bisect_iv` (`batctl/bisect_iv.c`)

Every node has the events of each originator it received packets from, the history of its route to
each originator, and its routing tables.  A packet in its log adds an event, and a changed route
adds a table and an entry of the history.  A node is known by its name, the text of its address, so
that a pointer to a node is its address here.  An array that is allocated has no values at first; a
read of one that is not there, or an access outside of it, is the failure of the call.

## Main definitions

* `Batctl.SeqnoEvent`, `Batctl.RtHist`, `Batctl.RtTable`, `Batctl.BatNode` — what is known of a
  node.
* `Batctl.seqnoEventNew`, `Batctl.routingTableNew` — a packet, and a changed route.

## Main results

* `Batctl.BatNode.get_setOrigEvent_self`, `Batctl.BatNode.get_setOrigEvent_of_ne` — what a record of
  an originator is changed to.
-/

namespace Batctl

open Batadv

/-- `RT_FLAG_ADD`. -/
def RT_FLAG_ADD : U8 := 1

/-- `RT_FLAG_UPDATE`. -/
def RT_FLAG_UPDATE : U8 := 2

/-- `RT_FLAG_DELETE`. -/
def RT_FLAG_DELETE : U8 := 3

/-- `UINT32_MAX`. -/
def UINT32_MAX : ℤ := 0xffffffff

/-- `UINT8_MAX`. -/
def UINT8_MAX : ℤ := 0xff

/-- A digit of the text of an address. -/
def macDigit (d : ℕ) : Char := if d < 10 then Char.ofNat (0x30 + d) else Char.ofNat (0x57 + d)

/-- The text of one byte of an address. -/
def macByte (b : U8) : List Char := [macDigit (b.toNat / 16), macDigit (b.toNat % 16)]

/-- The name of a node, the text of its address. -/
def macName (addr : EthAddr) : List Char :=
  [':'].intercalate (addr.bytes.map macByte)

/-- A packet that a node received, or a timeout, `struct seqno_event`.  `rtHist` is the place in the
history of the route to the originator. -/
structure SeqnoEvent where
  orig : EthAddr
  neigh : Option EthAddr
  prevSender : Option EthAddr
  seqno : ℤ
  tq : ℤ
  ttl : ℤ
  rtHist : Option ℕ
deriving DecidableEq

/-- A change of the route to an originator, `struct rt_hist`.  The entry before it and the event are
given by their places. -/
structure RtHist where
  prevRtHist : Option ℕ
  seqnoEvent : ℕ
  nextHop : Option EthAddr
  flags : U8
deriving DecidableEq

/-- What a node knows of an originator, `struct orig_event`. -/
structure OrigEvent where
  eventList : List SeqnoEvent
  rtHistList : List RtHist
deriving DecidableEq

/-- An entry of a routing table, `struct rt_entry`. -/
structure RtEntry where
  orig : EthAddr
  nextHop : Option EthAddr
  flags : U8
deriving DecidableEq

/-- A routing table, `struct rt_table`, with the array of its entries. -/
structure RtTable where
  numEntries : ℕ
  entries : List (Option RtEntry)
deriving DecidableEq

/-- A node, `struct bat_node`. -/
structure BatNode where
  origEvents : Table EthAddr OrigEvent
  rtTables : List RtTable
deriving DecidableEq

namespace BatNode

/-- A node of which no log was read. -/
def new : BatNode := ⟨[], []⟩

/-- `orig_event_get_by_name` and `orig_event_get_by_ptr`: a new record is the last one. -/
def origEventGet (node : BatNode) (orig : EthAddr) : BatNode × OrigEvent :=
  match node.origEvents.get orig with
  | some origEvent => (node, origEvent)
  | none => ({ node with origEvents := node.origEvents ++ [(orig, ⟨[], []⟩)] }, ⟨[], []⟩)

/-- Change the record of an originator. -/
def setOrigEvent (node : BatNode) (orig : EthAddr) (origEvent : OrigEvent) : BatNode :=
  { node with origEvents := node.origEvents.replace orig origEvent }

lemma get_setOrigEvent_self {node : BatNode} {orig : EthAddr} (origEvent : OrigEvent)
    (h : (node.origEvents.get orig).isSome) :
    (node.setOrigEvent orig origEvent).origEvents.get orig = some origEvent :=
  Table.get_replace_self origEvent h

lemma get_setOrigEvent_of_ne {node : BatNode} {orig orig' : EthAddr} (origEvent : OrigEvent)
    (h : orig' ≠ orig) :
    (node.setOrigEvent orig origEvent).origEvents.get orig' = node.origEvents.get orig' :=
  Table.get_replace_of_ne origEvent h

/-- The record of an originator, which is a new one if there was none. -/
lemma origEventGet_eq (node : BatNode) (orig : EthAddr) :
    ∃ node', node.origEventGet orig = (node', (node.origEvents.get orig).getD ⟨[], []⟩) ∧
      node'.rtTables = node.rtTables ∧
      node'.origEvents.get orig = some ((node.origEvents.get orig).getD ⟨[], []⟩) ∧
      ∀ orig' ≠ orig, node'.origEvents.get orig' = node.origEvents.get orig' := by
  unfold origEventGet
  cases hget : node.origEvents.get orig with
  | some origEvent => exact ⟨node, rfl, rfl, hget, fun _ _ => rfl⟩
  | none =>
    refine ⟨_, rfl, rfl, ?_, fun orig' hne => ?_⟩
    · unfold Table.get at hget ⊢
      rw [List.lookup_append, hget]
      simp
    · unfold Table.get
      rw [List.lookup_append]
      have hbeq : (orig' == orig) = false := by simpa using hne
      have hlookup : [(orig, (⟨[], []⟩ : OrigEvent))].lookup orig' = none := by
        simp [List.lookup_cons, hbeq]
      rw [hlookup, Option.or_none]

end BatNode

/-- **`seqno_event_new`**, for the node that has the interface: an error, and the current node. -/
def seqnoEventNew (curr node : Option BatNode) (orig prevSender neigh : Option EthAddr)
    (seqno tq ttl : ℤ) : Option String × Option BatNode :=
  match node, orig, neigh with
  | none, _, _ => (some "Invalid interface address found - skipping", curr)
  | some _, none, _ => (some "Invalid originator found - skipping", curr)
  | some _, some _, none => (some "Invalid neighbor found - skipping", curr)
  | some node, some orig, some neigh =>
    if seqno < 0 ∨ seqno > UINT32_MAX then
      (some s!"Invalid sequence number found ({seqno}) - skipping", curr)
    else if tq < 0 ∨ tq > UINT8_MAX then (some s!"Invalid tq value found ({tq}) - skipping", curr)
    else if ttl < 0 ∨ ttl > UINT8_MAX then
      (some s!"Invalid ttl value found ({ttl}) - skipping", curr)
    else
      match prevSender with
      | none => (some "", some node)
      | some prevSender =>
        let (node, origEvent) := node.origEventGet orig
        let event : SeqnoEvent := ⟨orig, some neigh, some prevSender, seqno, tq, ttl, none⟩
        (none, some (node.setOrigEvent orig
          { origEvent with eventList := origEvent.eventList ++ [event] }))

/-! ### A changed route -/

/-- Whether a routing table has an entry of an originator. -/
def RtTable.has (table : RtTable) (orig : EthAddr) : Bool :=
  (table.entries.take table.numEntries).any fun e => e.any fun e => e.orig == orig

/-- The size of the new routing table, before the last one is copied. -/
def rtNumEntries (prev : Option RtTable) (orig : EthAddr) (rtFlag : U8) : ℕ :=
  match prev with
  | none => 1
  | some prev =>
    -- if we had that route already we just change the entry
    if rtFlag ≠ RT_FLAG_ADD ∧ prev.has orig then prev.numEntries else prev.numEntries + 1

/-- The new table while it is filled, and where its next entry goes, `j + 1`. -/
structure RtCopy where
  numEntries : ℕ
  next : ℕ
  entries : List (Option RtEntry)
deriving DecidableEq

/-- What becomes of an entry that is copied. -/
def RtEntry.copied (e : RtEntry) (orig : EthAddr) (nextHop : Option EthAddr) (rtFlag : U8) :
    RtEntry :=
  if e.orig = orig then
    ⟨e.orig, if rtFlag = RT_FLAG_DELETE then e.nextHop else nextHop, rtFlag⟩
  else { e with flags := 0 }

/-- One turn of the loop that copies the last table. -/
def rtCopyEntry (orig : EthAddr) (nextHop : Option EthAddr) (rtFlag : U8) (c : RtCopy)
    (e : Option RtEntry) : Option RtCopy :=
  e.bind fun e =>
    -- if we have a previously deleted item don't copy it over
    if e.flags = RT_FLAG_DELETE then some { c with numEntries := c.numEntries - 1 }
    else if c.next < c.entries.length then
      some ⟨c.numEntries, c.next + 1,
        c.entries.set c.next (some (e.copied orig nextHop rtFlag))⟩
    else none

/-- The entries of the new table. -/
def rtFill (prev : Option RtTable) (orig : EthAddr) (nextHop : Option EthAddr) (rtFlag : U8) :
    Option RtTable :=
  let num := rtNumEntries prev orig rtFlag
  let last := prev.elim [] fun prev => prev.entries.take prev.numEntries
  (last.foldlM (rtCopyEntry orig nextHop rtFlag) ⟨num, 0, List.replicate num none⟩).bind fun c =>
    if c.numEntries = 1 ∨ c.numEntries ≠ c.next then
      if 0 < c.numEntries ∧ c.numEntries ≤ c.entries.length then
        some ⟨c.numEntries, c.entries.set (c.numEntries - 1) (some ⟨orig, nextHop, rtFlag⟩)⟩
      else none
    else some ⟨c.numEntries, c.entries⟩

/-- The event and the entry of the history that a changed route leaves.  A deleted route has an
event of its own, since a timer triggered it. -/
def OrigEvent.addHist (origEvent : OrigEvent) (orig : EthAddr) (nextHop : Option EthAddr)
    (rtFlag : U8) (prev : Option RtTable) : OrigEvent :=
  let events := if rtFlag = RT_FLAG_DELETE ∧ prev.isSome
    then origEvent.eventList ++ [⟨orig, none, none, -1, -1, -1, none⟩] else origEvent.eventList
  let hist := origEvent.rtHistList
  ⟨events.modify (events.length - 1) fun event => { event with rtHist := some hist.length },
    hist ++ [⟨if hist.isEmpty then none else some (hist.length - 1), events.length - 1, nextHop,
      rtFlag⟩]⟩

/-- **`routing_table_new`**: an error, and the current node. -/
def routingTableNew (curr : Option BatNode) (orig nextHop oldNextHop : Option EthAddr)
    (rtFlag : U8) : Option (Option String × Option BatNode) :=
  match curr, orig with
  | none, _ => some (some "Routing table change without preceding OGM - skipping", none)
  | some node, none => some (some "Invalid originator found - skipping", some node)
  | some node, some orig =>
    if rtFlag ≠ RT_FLAG_DELETE ∧ nextHop = none then
      some (some "Invalid next hop found - skipping", some node)
    else if rtFlag = RT_FLAG_UPDATE ∧ oldNextHop = none then
      some (some "Invalid old next hop found - skipping", some node)
    else
      let (node, origEvent) := node.origEventGet orig
      match origEvent.eventList.getLast? with
      | none => some (some <|
        "Routing table change without any preceding OGM of that originator - skipping", some node)
      | some last =>
        if last.orig ≠ orig then some (some
          "Routing table change does not match with last received OGM - skipping", some node)
        else if ¬ (rtFlag = RT_FLAG_ADD ∨ rtFlag = RT_FLAG_UPDATE ∨ rtFlag = RT_FLAG_DELETE) then
          some (some s!"Unknown rt_flag received: {rtFlag.toNat} - skipping", some node)
        else
          let prev := node.rtTables.getLast?
          if rtFlag = RT_FLAG_DELETE ∧ prev.any (fun prev => !prev.has orig) then
            some (some (s!"Found a delete entry of orig '{String.ofList (macName orig)}' but no " ++
              "existing record - skipping"), some node)
          else
            (rtFill prev orig nextHop rtFlag).map fun table =>
              (none, some { node.setOrigEvent orig (origEvent.addHist orig nextHop rtFlag prev) with
                rtTables := node.rtTables ++ [table] })

end Batctl
