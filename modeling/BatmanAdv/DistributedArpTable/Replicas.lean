import BatmanAdv.DistributedArpTable.Arp
import BatmanAdv.DistributedArpTable.Candidates

set_option relaxedAutoImplicit false
set_option autoImplicit false

/-!
# Storing and looking up in the distributed ARP table

A node that snoops an ARP reply sends it to the candidates of its addresses.  Another node, whose
client asks for such an address, sends the request to the candidates that it selects itself.  No
node is in its own originator table, so the two nodes select different candidates.  Still enough of
them agree that one node may be down: what was stored is found.

## Main definitions

* `Batadv.DatMesh` — the nodes of a mesh and their originator tables.
* `Batadv.DatMesh.publish` — the caches when a reply was sent to its candidates.
* `Batadv.DatMesh.lookup` — the answers to a request of a client.

## Main results

* `Batadv.DatMesh.min_le_length_overlap` — of two nodes' candidates all but one agree.
* `Batadv.dat_lookup_hits` — what was stored is found, even if one node is down.
-/

namespace Batadv

/-! ### The mesh -/

/-- **A mesh**: its nodes, as their originator tables describe them, and what the table needs of
each of them.  A node knows all nodes but itself, in some order.  Addresses are different, and so
are the addresses in the table's hash space of the nodes that run it. -/
structure DatMesh where
  nodes : List DatOrig
  node : EthAddr → DatNode
  origHash : EthAddr → List DatOrig
  orig_nodup : (nodes.map DatOrig.orig).Nodup
  datAddr_nodup : ((datCapable nodes).map DatOrig.datAddr).Nodup
  origHash_perm : ∀ u, (origHash u).Perm (nodes.filter fun o => o.orig ≠ u)
  hasDat_iff : ∀ o ∈ nodes, o.hasDat = (node o.orig).distributedArpTable

/-- A frame with a reply arrives at a candidate behind a header, unless this node is down. -/
def DatMesh.put (mesh : DatMesh) (down : EthAddr → Bool) (hdr : EthAddr → List U8) (skb : List U8)
    (cache : EthAddr → DatCache) (cand : DatOrig) : EthAddr → DatCache :=
  if down cand.orig then cache
  else
    Function.update cache cand.orig (datSnoopIncomingArpReply (mesh.node cand.orig) (true, true)
      (hdr cand.orig ++ skb) (hdr cand.orig).length (cache cand.orig)).1

/-- The caches when a client of the node `p` has sent a reply, and `batadv_dat_forward_data` has
sent it to the candidates of its addresses. -/
def DatMesh.publish (mesh : DatMesh) (down : EthAddr → Bool) (hdr : EthAddr → List U8) (p : EthAddr)
    (skb : List U8) (cache : EthAddr → DatCache) : EthAddr → DatCache :=
  let (s, puts) := datSnoopOutgoingArpReply (mesh.node p) (true, true) skb (cache p)
  (puts.flatMap fun a => datSelected (mesh.origHash p) a.1 a.2).foldl (mesh.put down hdr skb)
    (Function.update cache p s)

/-- What becomes of a request of a client of the node `r`. -/
def DatMesh.request (mesh : DatMesh) (r : EthAddr) (skb : List U8) (cache : EthAddr → DatCache) :
    DatRequest :=
  (datSnoopOutgoingArpRequest (mesh.node r) (true, true) skb (cache r)).2

/-- The answers to a request: of the node itself, or of the candidates that
`batadv_dat_forward_data` sends it to. -/
def DatMesh.lookup (mesh : DatMesh) (down : EthAddr → Bool) (hdr : EthAddr → List U8) (r : EthAddr)
    (skb : List U8) (cache : EthAddr → DatCache) : List (List U8) :=
  match mesh.request r skb cache with
  | .answered reply => [reply]
  | .forwarded ip vid => (datSelected (mesh.origHash r) ip vid).filterMap fun cand =>
      if down cand.orig then none
      else
        (datSnoopIncomingArpRequest (mesh.node cand.orig) (true, true) (hdr cand.orig ++ skb)
          (hdr cand.orig).length (cache cand.orig)).2
  | _ => []

/-! ### Candidates without ties -/

/-- The place of an originator on the ring, the first one being 0. -/
def datRingKey (ipKey : U16) (o : DatOrig) : ℕ := 65535 - (datRing ipKey o).toNat

lemma datRingKey_lt_iff {ipKey : U16} {a b : DatOrig} :
    datRingKey ipKey a < datRingKey ipKey b ↔ datRing ipKey b < datRing ipKey a := by
  have ha := (datRing ipKey a).isLt
  have hb := (datRing ipKey b).isLt
  unfold datRingKey
  rw [BitVec.lt_def]
  omega

lemma datRingKey_inj {ipKey : U16} {a b : DatOrig} (h : datRingKey ipKey a = datRingKey ipKey b) :
    a.datAddr = b.datAddr := by
  have ha := (datRing ipKey a).isLt
  have hb := (datRing ipKey b).isLt
  have hring : datRing ipKey a = datRing ipKey b := by
    apply BitVec.eq_of_toNat_eq
    unfold datRingKey at h
    omega
  unfold datRing DAT_ADDR_MAX at hring
  bv_omega

/-- Without ties the order of the search is that of the ring. -/
lemma rank_datSearchKey_eq {origHash : List DatOrig} {ipKey : U16} {o : DatOrig}
    (hring : ((datCapable origHash).map (datRingKey ipKey)).Nodup) (ho : o ∈ datCapable origHash) :
    Selection.rank (datSearchKey origHash ipKey) (datCapable origHash) o =
      Selection.rank (datRingKey ipKey) (datCapable origHash) o := by
  refine List.countP_congr fun b hb => ?_
  have hsearch : datSearchKey origHash ipKey b < datSearchKey origHash ipKey o ↔ _ :=
    datSearchKey_lt_iff (mem_datCapable.1 hb).1 (mem_datCapable.1 ho).1
  rw [decide_eq_true_eq, decide_eq_true_eq, hsearch, datRingKey_lt_iff]
  refine or_iff_left fun htie => ?_
  -- an originator has no tie but itself
  have hkey : datRingKey ipKey b = datRingKey ipKey o :=
    congrArg (fun v : U16 => 65535 - v.toNat) htie.1
  have hbo := List.inj_on_of_nodup_map hring hb ho hkey
  rw [hbo] at htie
  exact absurd htie.2 (lt_irrefl _)

/-- Without ties the search selects the first three on the ring. -/
lemma mem_datSelected_iff {origHash : List DatOrig} {ip : U32} {vid : U16}
    (horig : (origHash.map DatOrig.orig).Nodup)
    (hring : ((datCapable origHash).map (datRingKey (datIpKey ip vid))).Nodup) (o : DatOrig) :
    o ∈ datSelected origHash ip vid ↔
      o ∈ Selection.first (datRingKey (datIpKey ip vid)) (datCapable origHash)
        DAT_CANDIDATES_NUM := by
  rw [datSelectCandidates_eq horig, Selection.mem_first_iff (nodup_datSearchKey horig.of_map),
    Selection.mem_first_iff hring]
  refine and_congr_right fun ho => ?_
  rw [rank_datSearchKey_eq hring ho]

namespace DatMesh

variable (mesh : DatMesh) (ip : U32) (vid : U16)

lemma nodup_ringKey :
    ((datCapable mesh.nodes).map (datRingKey (datIpKey ip vid))).Nodup := by
  refine (List.nodup_map_iff_inj_on (mesh.orig_nodup.of_map.filter _)).2 fun a ha b hb hab => ?_
  exact List.inj_on_of_nodup_map mesh.datAddr_nodup ha hb (datRingKey_inj hab)

/-- The nodes that a node can select: all that run the table, but itself. -/
lemma capable_perm (u : EthAddr) : (datCapable (mesh.origHash u)).Perm
    ((datCapable mesh.nodes).filter fun o => o.orig ≠ u) := by
  have hperm := (mesh.origHash_perm u).filter DatOrig.hasDat
  rw [List.filter_filter] at hperm
  unfold datCapable
  rw [List.filter_filter]
  simpa only [Bool.and_comm] using hperm

lemma capable_subperm (u : EthAddr) :
    (datCapable (mesh.origHash u)).Subperm (datCapable mesh.nodes) :=
  (mesh.capable_perm u).subperm.trans List.filter_sublist.subperm

/-- A node lacks itself only. -/
lemma length_capable_le (u : EthAddr) :
    (datCapable mesh.nodes).length ≤ (datCapable (mesh.origHash u)).length + 1 := by
  have hsplit := List.length_eq_length_filter_add (l := datCapable mesh.nodes)
    fun o => decide (o.orig ≠ u)
  have hself : ((datCapable mesh.nodes).filter fun o => !decide (o.orig ≠ u)).length ≤ 1 := by
    have hnodup : (((datCapable mesh.nodes).filter fun o => !decide (o.orig ≠ u)).map
        DatOrig.orig).Nodup :=
      ((List.filter_sublist.trans List.filter_sublist).map _).nodup mesh.orig_nodup
    have hall : ∀ a ∈ ((datCapable mesh.nodes).filter fun o => !decide (o.orig ≠ u)).map
        DatOrig.orig, a = u := by
      intro a ha
      obtain ⟨o, ho, rfl⟩ := List.mem_map.1 ha
      simpa using (List.mem_filter.1 ho).2
    rw [List.eq_replicate_of_mem hall, List.nodup_replicate, List.length_map] at hnodup
    exact hnodup
  have hlen := (mesh.capable_perm u).length_eq
  omega

lemma mem_datSelected (u : EthAddr) (o : DatOrig) :
    o ∈ datSelected (mesh.origHash u) ip vid ↔
      o ∈ Selection.first (datRingKey (datIpKey ip vid)) (datCapable (mesh.origHash u))
        DAT_CANDIDATES_NUM := by
  refine mem_datSelected_iff ?_ ?_ o
  · exact (((mesh.origHash_perm u).map _).nodup_iff).2
      ((List.filter_sublist.map _).nodup mesh.orig_nodup)
  · exact Selection.nodup_map_of_subperm (mesh.nodup_ringKey ip vid) (mesh.capable_subperm u)

/-- A node that another one cannot select is that one. -/
lemma orig_eq_of_notMem {u : EthAddr} {o : DatOrig} (ho : o ∈ datCapable mesh.nodes)
    (hnot : o ∉ datCapable (mesh.origHash u)) : o.orig = u := by
  by_contra hne
  exact hnot ((mesh.capable_perm u).mem_iff.2 (List.mem_filter.2 ⟨ho, decide_eq_true hne⟩))

/-- **The candidates of two nodes agree**: of those that `p` selects, all but one are selected by
`r`, too, or are `r` itself.

**Proof sketch.** Both select the first three on the ring of all nodes but themselves. -/
theorem min_le_length_overlap (p r : EthAddr) :
    ∃ agree : List DatOrig, agree.Nodup ∧
      min 2 (datCapable (mesh.origHash p)).length ≤ agree.length ∧
      ∀ o ∈ agree, o ∈ datSelected (mesh.origHash p) ip vid ∧
        (o.orig = r ∨ o ∈ datSelected (mesh.origHash r) ip vid) := by
  have hlen := Selection.le_length_filter_first (mesh.nodup_ringKey ip vid)
    (mesh.capable_subperm p) (mesh.length_capable_le p) (mesh.capable_subperm r) DAT_CANDIDATES_NUM
  have hnodup := Selection.nodup_first (Selection.nodup_map_of_subperm (mesh.nodup_ringKey ip vid)
    (mesh.capable_subperm p)) DAT_CANDIDATES_NUM
  refine ⟨_, hnodup.filter _, hlen, fun o ho => ?_⟩
  obtain ⟨hsel, hagree⟩ := List.mem_filter.1 ho
  refine ⟨(mesh.mem_datSelected ip vid p o).2 hsel, ?_⟩
  by_cases hmem : o ∈ datCapable (mesh.origHash r)
  · exact .inr ((mesh.mem_datSelected ip vid r o).2 (of_decide_eq_true hagree hmem))
  · refine .inl (mesh.orig_eq_of_notMem ?_ hmem)
    exact (mesh.capable_subperm p).subset (Selection.first_subset _ hsel)

/-- If one node may be down, one is left that agrees. -/
lemma exists_agree {p : EthAddr} (r : EthAddr) (hcap : 2 ≤ (datCapable (mesh.origHash p)).length)
    {down : EthAddr → Bool} (hdown : ∀ a b, down a → down b → a = b) :
    ∃ o ∈ datSelected (mesh.origHash p) ip vid, down o.orig = false ∧
      (o.orig = r ∨ o ∈ datSelected (mesh.origHash r) ip vid) := by
  obtain ⟨agree, hnodup, hlen, hagree⟩ := mesh.min_le_length_overlap ip vid p r
  rw [min_eq_left hcap] at hlen
  by_contra hall
  push Not at hall
  have hisDown : ∀ o ∈ agree, down o.orig = true := by
    intro o ho
    obtain ⟨hsel, hor⟩ := hagree o ho
    by_contra hup
    obtain ⟨hr, hnot⟩ := hall o hsel (Bool.eq_false_iff.2 hup)
    exact hor.elim hr hnot
  match agree, hnodup, hlen, hagree, hisDown with
  | a :: b :: _, hnodup, _, hagree, hisDown =>
    have hmem : ∀ o, o ∈ datSelected (mesh.origHash p) ip vid → o ∈ mesh.nodes := by
      intro o ho
      have hcapable := Selection.first_subset _ ((mesh.mem_datSelected ip vid p o).1 ho)
      exact (mem_datCapable.1 ((mesh.capable_subperm p).subset hcapable)).1
    have horig := hdown _ _ (hisDown a (by simp)) (hisDown b (by simp))
    have hab : a = b := List.inj_on_of_nodup_map mesh.orig_nodup
      (hmem a (hagree a (by simp)).1) (hmem b (hagree b (by simp)).1) horig
    rw [hab] at hnodup
    simp at hnodup

end DatMesh

/-! ### What is stored -/

/-- A cache has stored an address. -/
def DatCache.Stores (s : DatCache) (ip : U32) (vid : U16) (macAddr : EthAddr) : Prop :=
  ∃ e, datEntryHashFind s ip vid = some e ∧ e.macAddr = macAddr

/-- A cache has stored no other address. -/
def DatCache.Agrees (s : DatCache) (ip : U32) (vid : U16) (macAddr : EthAddr) : Prop :=
  ∀ e, datEntryHashFind s ip vid = some e → e.macAddr = macAddr

section Stores

variable {s : DatCache} {ip ip' : U32} {vid : U16} {macAddr macAddr' : EthAddr}

lemma DatCache.Stores.agrees (h : s.Stores ip vid macAddr) : s.Agrees ip vid macAddr := by
  obtain ⟨e, he, hmac⟩ := h
  intro e' he'
  rw [he, Option.some_inj] at he'
  rw [← he']
  exact hmac

/-- What is added is stored. -/
lemma stores_datEntryAdd (s : DatCache) (ip : U32) (vid : U16) (macAddr : EthAddr) :
    (datEntryAdd s ip macAddr vid true).Stores ip vid macAddr := by
  have hfind : datEntryHashFind (datEntryAdd s ip macAddr vid true) ip vid =
      some (((datEntryHashFind s ip vid).map fun e =>
        { e with macAddr := macAddr, lastUpdate := s.jiffies }).getD
          ⟨ip, macAddr, vid, s.jiffies⟩) := by
    rw [datEntryHashFind, hash_datEntryAdd]
    exact Table.get_set_self _ _ _
  refine ⟨_, hfind, ?_⟩
  cases datEntryHashFind s ip vid <;> rfl

/-- Adding another IP address changes nothing. -/
lemma find_datEntryAdd_of_ne (h : ip ≠ ip') :
    datEntryHashFind (datEntryAdd s ip' macAddr' vid true) ip vid = datEntryHashFind s ip vid := by
  unfold datEntryHashFind
  rw [hash_datEntryAdd]
  exact Table.get_set_of_ne _ _ fun hslot => h (congrArg Prod.snd hslot)

variable {node : DatNode} {skb : List U8} {n : ℕ}

/-- A node that sends a reply stores the address of its sender. -/
lemma stores_outgoingReply (hnode : node.distributedArpTable = true)
    (hvid : datGetVid skb 0 = (vid, n)) (htype : arpGetType skb n = ARPOP_REPLY)
    (hne : arpIpSrc skb n ≠ arpIpDst skb n) (s : DatCache) :
    (datSnoopOutgoingArpReply node (true, true) skb s).1.Stores (arpIpSrc skb n) vid
        (arpHwSrc skb n) ∧
      (datSnoopOutgoingArpReply node (true, true) skb s).2 =
        [(arpIpSrc skb n, vid), (arpIpDst skb n, vid)] := by
  unfold datSnoopOutgoingArpReply
  rw [hnode, hvid]
  simp only [Bool.not_true, Bool.false_eq_true, if_false, htype, ne_eq, not_true_eq_false,
    and_true]
  obtain ⟨e, he, hmac⟩ := stores_datEntryAdd s (arpIpSrc skb n) vid (arpHwSrc skb n)
  exact ⟨e, by rw [find_datEntryAdd_of_ne hne, he], hmac⟩

/-- A node that a reply is sent to stores the address of its sender. -/
lemma stores_incomingReply (hnode : node.distributedArpTable = true) (hdr : List U8)
    (hvid : datGetVid skb 0 = (vid, n)) (htype : arpGetType skb n = ARPOP_REPLY)
    (hne : arpIpSrc skb n ≠ arpIpDst skb n) (s : DatCache) :
    (datSnoopIncomingArpReply node (true, true) (hdr ++ skb) hdr.length s).1.Stores
      (arpIpSrc skb n) vid (arpHwSrc skb n) := by
  have hstored : (datSnoopIncomingArpReply node (true, true) (hdr ++ skb) hdr.length s).1 =
      datEntryAdd (datEntryAdd s (arpIpSrc skb n) (arpHwSrc skb n) vid true) (arpIpDst skb n)
        (arpHwDst skb n) vid true := by
    unfold datSnoopIncomingArpReply
    rw [hnode, datGetVid_append, hvid]
    simp only [Bool.not_true, Bool.false_eq_true, if_false, arpGetType_append, htype, ne_eq,
      not_true_eq_false, arpIpSrc_append, arpHwSrc_append, arpIpDst_append, arpHwDst_append]
    split_ifs <;> rfl
  rw [hstored]
  obtain ⟨e, he, hmac⟩ := stores_datEntryAdd s (arpIpSrc skb n) vid (arpHwSrc skb n)
  exact ⟨e, by rw [find_datEntryAdd_of_ne hne, he], hmac⟩

/-- A node that stores an address answers a request for it. -/
lemma incomingRequest_of_stores (hnode : node.distributedArpTable = true) (hdr : List U8)
    (hvid : datGetVid skb 0 = (vid, n)) (htype : arpGetType skb n = ARPOP_REQUEST)
    (hne : arpIpDst skb n ≠ arpIpSrc skb n) (hs : s.Stores (arpIpDst skb n) vid macAddr) :
    (datSnoopIncomingArpRequest node (true, true) (hdr ++ skb) hdr.length s).2 =
      datArpCreateReply true (arpIpDst skb n) (arpIpSrc skb n) macAddr (arpHwSrc skb n) vid := by
  obtain ⟨e, he, rfl⟩ := hs
  unfold datSnoopIncomingArpRequest
  rw [hnode, datGetVid_append, hvid]
  simp only [Bool.not_true, Bool.false_eq_true, if_false, arpGetType_append, htype, ne_eq,
    not_true_eq_false, arpIpSrc_append, arpHwSrc_append, arpIpDst_append]
  rw [find_datEntryAdd_of_ne hne, he]

/-- What becomes of a request at a node that has stored no other address. -/
lemma outgoingRequest_of_agrees (hnode : node.distributedArpTable = true)
    (hvid : datGetVid skb 0 = (vid, n)) (htype : arpGetType skb n = ARPOP_REQUEST)
    (hne : arpIpDst skb n ≠ arpIpSrc skb n) (hs : s.Agrees (arpIpDst skb n) vid macAddr) :
    let request := (datSnoopOutgoingArpRequest node (true, true) skb s).2
    request = .left ∨
      (∃ reply, datArpCreateReply true (arpIpDst skb n) (arpIpSrc skb n) macAddr (arpHwSrc skb n)
        vid = some reply ∧ request = .answered reply) ∨
      datEntryHashFind s (arpIpDst skb n) vid = none ∧
        request = .forwarded (arpIpDst skb n) vid := by
  unfold datSnoopOutgoingArpRequest
  rw [hnode, hvid]
  simp only [Bool.not_true, Bool.false_eq_true, if_false, htype, ne_eq, not_true_eq_false]
  rw [find_datEntryAdd_of_ne hne]
  cases he : datEntryHashFind s (arpIpDst skb n) vid with
  | none => exact .inr (.inr ⟨rfl, rfl⟩)
  | some e =>
    simp only
    split_ifs
    · exact .inl rfl
    · exact .inl rfl
    · refine .inr (.inl ⟨_, rfl, ?_⟩)
      rw [hs e he]
      rfl

end Stores

/-! ### Storing and looking up -/

section Publish

variable {mesh : DatMesh} {down : EthAddr → Bool} {hdr : EthAddr → List U8} {skb : List U8}
  {vid : U16} {n : ℕ}

variable (down hdr) in
/-- **The candidates store what was sent**, and no node stores anything else.

**Proof sketch.** Induction on the candidates. -/
lemma stores_foldl_put (hvid : datGetVid skb 0 = (vid, n)) (htype : arpGetType skb n = ARPOP_REPLY)
    (hne : arpIpSrc skb n ≠ arpIpDst skb n) {cands : List DatOrig}
    (hcands : ∀ c ∈ cands, (mesh.node c.orig).distributedArpTable = true)
    (cache : EthAddr → DatCache) (u : EthAddr) :
    ((cands.foldl (mesh.put down hdr skb) cache) u = cache u ∨
      (cands.foldl (mesh.put down hdr skb) cache u).Stores (arpIpSrc skb n) vid
        (arpHwSrc skb n)) ∧
      ((∃ c ∈ cands, c.orig = u ∧ down u = false) →
        (cands.foldl (mesh.put down hdr skb) cache u).Stores (arpIpSrc skb n) vid
          (arpHwSrc skb n)) := by
  induction cands generalizing cache with
  | nil => exact ⟨.inl rfl, by simp⟩
  | cons c cands ih =>
    rw [List.foldl_cons]
    obtain ⟨hkeep, hstore⟩ := ih (fun c' hc' => hcands c' (List.mem_cons_of_mem _ hc'))
      (mesh.put down hdr skb cache c)
    -- the node has the same cache as before, or has stored the address
    have hput : (mesh.put down hdr skb cache c u = cache u ∧ (c.orig = u → down u = true)) ∨
        (mesh.put down hdr skb cache c u).Stores (arpIpSrc skb n) vid (arpHwSrc skb n) := by
      unfold DatMesh.put
      by_cases hdown : down c.orig = true
      · rw [if_pos hdown]
        exact .inl ⟨rfl, fun h => h ▸ hdown⟩
      · rw [if_neg hdown]
        by_cases hu : u = c.orig
        · rw [hu, Function.update_self]
          exact .inr (stores_incomingReply (hcands c List.mem_cons_self) _ hvid htype hne _)
        · rw [Function.update_of_ne hu]
          exact .inl ⟨rfl, fun h => absurd h.symm hu⟩
    rcases hput with ⟨hsame, hmissed⟩ | hput
    · rw [hsame] at hkeep
      refine ⟨hkeep, ?_⟩
      rintro ⟨c', hc', hc'u, hup⟩
      rcases List.mem_cons.1 hc' with rfl | hc'
      · rw [hmissed hc'u] at hup
        cases hup
      · exact hstore ⟨c', hc', hc'u, hup⟩
    · have hnow : (cands.foldl (mesh.put down hdr skb) (mesh.put down hdr skb cache c) u).Stores
          (arpIpSrc skb n) vid (arpHwSrc skb n) := by
        rcases hkeep with hkeep | hkeep
        · rw [hkeep]
          exact hput
        · exact hkeep
      exact ⟨.inr hnow, fun _ => hnow⟩

/-- A candidate runs the table. -/
lemma DatMesh.switchedOn_of_selected {ip : U32} {u : EthAddr} {c : DatOrig}
    (hc : c ∈ datSelected (mesh.origHash u) ip vid) :
    (mesh.node c.orig).distributedArpTable = true := by
  have hcapable := Selection.first_subset _ ((mesh.mem_datSelected ip vid u c).1 hc)
  obtain ⟨hmem, hdat⟩ := mem_datCapable.1 ((mesh.capable_subperm u).subset hcapable)
  rw [← mesh.hasDat_iff c hmem]
  exact hdat

variable (mesh down hdr) in
/-- **When a reply was published**, its node and the candidates that are up have stored the address
of its sender, and no other cache has changed. -/
lemma DatMesh.publish_spec {p : EthAddr} (hp : (mesh.node p).distributedArpTable = true)
    (hvid : datGetVid skb 0 = (vid, n)) (htype : arpGetType skb n = ARPOP_REPLY)
    (hne : arpIpSrc skb n ≠ arpIpDst skb n) (cache : EthAddr → DatCache) (u : EthAddr) :
    (mesh.publish down hdr p skb cache u = cache u ∨
      (mesh.publish down hdr p skb cache u).Stores (arpIpSrc skb n) vid (arpHwSrc skb n)) ∧
      ((u = p ∨ ∃ c ∈ datSelected (mesh.origHash p) (arpIpSrc skb n) vid, c.orig = u ∧
        down u = false) →
        (mesh.publish down hdr p skb cache u).Stores (arpIpSrc skb n) vid (arpHwSrc skb n)) := by
  obtain ⟨hown, hputs⟩ := stores_outgoingReply hp hvid htype hne (cache p)
  unfold DatMesh.publish
  simp only [hputs]
  set cands := [(arpIpSrc skb n, vid), (arpIpDst skb n, vid)].flatMap fun a =>
    datSelected (mesh.origHash p) a.1 a.2 with hcands
  have hon : ∀ c ∈ cands, (mesh.node c.orig).distributedArpTable = true := by
    intro c hc
    obtain ⟨a, -, hc⟩ := List.mem_flatMap.1 hc
    exact DatMesh.switchedOn_of_selected hc
  obtain ⟨hkeep, hstore⟩ := stores_foldl_put down hdr hvid htype hne hon
    (Function.update cache p
      (datSnoopOutgoingArpReply (mesh.node p) (true, true) skb (cache p)).1) u
  by_cases hu : u = p
  · have hnow : (cands.foldl (mesh.put down hdr skb) (Function.update cache p
        (datSnoopOutgoingArpReply (mesh.node p) (true, true) skb (cache p)).1) u).Stores
        (arpIpSrc skb n) vid (arpHwSrc skb n) := by
      rcases hkeep with hkeep | hkeep
      · rw [hkeep, hu, Function.update_self]
        exact hown
      · exact hkeep
    exact ⟨.inr hnow, fun _ => hnow⟩
  · rw [Function.update_of_ne hu] at hkeep
    refine ⟨hkeep, fun h => hstore ?_⟩
    obtain ⟨c, hc, hcu⟩ := h.resolve_left hu
    exact ⟨c, List.mem_flatMap.2 ⟨_, List.mem_cons_self, hc⟩, hcu⟩

end Publish

/-- **What was stored is found, even if one node is down.**  A client of the node `p` has sent an
ARP reply, and a client of the node `r` asks for the address of its sender.  Unless `r` leaves the
request to its own client or to another gateway, one of the answers is the reply with the stored
address; `p` has at least two other nodes that run the table, and `r` had not stored another address
before.

**Proof sketch.** Two of the candidates of `p` are candidates of `r`, too, or `r` itself, and one of
them is up: it has stored the address.  If it is `r`, then `r` answers itself. -/
theorem dat_lookup_hits (mesh : DatMesh) (p r : EthAddr) (down : EthAddr → Bool)
    (hdr : EthAddr → List U8) (cache : EthAddr → DatCache) (skb req : List U8) (vid : U16)
    (n m : ℕ) (hp : (mesh.node p).distributedArpTable = true)
    (hr : (mesh.node r).distributedArpTable = true)
    (hcap : 2 ≤ (datCapable (mesh.origHash p)).length)
    (hdown : ∀ a b, down a → down b → a = b)
    -- the reply
    (hvid : datGetVid skb 0 = (vid, n)) (htype : arpGetType skb n = ARPOP_REPLY)
    (hne : arpIpSrc skb n ≠ arpIpDst skb n)
    -- the request
    (hreqVid : datGetVid req 0 = (vid, m)) (hreqType : arpGetType req m = ARPOP_REQUEST)
    (hreqIp : arpIpDst req m = arpIpSrc skb n) (hreqNe : arpIpDst req m ≠ arpIpSrc req m)
    (hold : (cache r).Agrees (arpIpSrc skb n) vid (arpHwSrc skb n)) :
    mesh.request r req (mesh.publish down hdr p skb cache) = .left ∨
      ∃ reply ∈ mesh.lookup down hdr r req (mesh.publish down hdr p skb cache),
        datArpCreateReply true (arpIpSrc skb n) (arpIpSrc req m) (arpHwSrc skb n)
          (arpHwSrc req m) vid = some reply := by
  have hpublish := DatMesh.publish_spec mesh down hdr hp hvid htype hne cache
  set after := mesh.publish down hdr p skb cache with hafter
  have hagrees : (after r).Agrees (arpIpDst req m) vid (arpHwSrc skb n) := by
    rw [hreqIp]
    rcases (hpublish r).1 with hsame | hstores
    · rw [hsame]
      exact hold
    · exact hstores.agrees
  have hcases := outgoingRequest_of_agrees hr hreqVid hreqType hreqNe hagrees
  change mesh.request r req after = _ ∨ (∃ _, _ ∧ mesh.request r req after = _) ∨
    _ ∧ mesh.request r req after = _ at hcases
  unfold DatMesh.lookup
  rcases hcases with hleft | ⟨reply, hreply, hanswered⟩ | ⟨hnone, hforwarded⟩
  · exact .inl hleft
  · rw [hanswered]
    refine .inr ⟨reply, List.mem_singleton_self _, ?_⟩
    rw [← hreqIp]
    exact hreply
  · right
    obtain ⟨c, hsel, hup, hagree⟩ :=
      mesh.exists_agree (arpIpSrc skb n) vid r hcap hdown
    have hstores := (hpublish c.orig).2 (.inr ⟨c, hsel, rfl, hup⟩)
    rcases hagree with hself | hselected
    · -- then the node had found it itself
      obtain ⟨e, he, -⟩ := hstores
      rw [hself, ← hreqIp, hnone] at he
      cases he
    · rw [← hreqIp] at hstores hselected
      have hreply := incomingRequest_of_stores (DatMesh.switchedOn_of_selected hselected)
        (hdr c.orig) hreqVid hreqType hreqNe hstores
      obtain ⟨reply, hsome⟩ : ∃ reply, datArpCreateReply true (arpIpDst req m) (arpIpSrc req m)
          (arpHwSrc skb n) (arpHwSrc req m) vid = some reply := ⟨_, rfl⟩
      rw [hforwarded]
      refine ⟨reply, List.mem_filterMap.2 ⟨c, hselected, ?_⟩, by rw [← hreqIp]; exact hsome⟩
      rw [if_neg (by rw [hup]; exact Bool.false_ne_true), hreply]
      exact hsome

/-- Five nodes, of which one does not run the table. -/
def datMeshOfFive : DatMesh where
  nodes := [⟨0x020000000001, 700, true⟩, ⟨0x020000000002, 9000, true⟩,
    ⟨0x020000000003, 21000, true⟩, ⟨0x020000000004, 40000, true⟩, ⟨0x020000000005, 60000, false⟩]
  node u := ⟨u != 0x020000000005, fun _ _ => false, fun _ _ => true⟩
  origHash u := ([⟨0x020000000001, 700, true⟩, ⟨0x020000000002, 9000, true⟩,
    ⟨0x020000000003, 21000, true⟩, ⟨0x020000000004, 40000, true⟩,
    ⟨0x020000000005, 60000, false⟩] : List DatOrig).filter fun o => o.orig ≠ u
  orig_nodup := by decide
  datAddr_nodup := by decide
  origHash_perm _ := .refl _
  hasDat_iff := by decide

/-- Node 1 has a client with the address 10.0.0.7, for which a client of node 4 asks, while node 2
is down. -/
theorem dat_lookup_hits_five :
    let reply := EthAddr.bytes 0x0A0000000009 ++ EthAddr.bytes 0x0A0000000007 ++
      arpBytes ARPOP_REPLY 0x0A000007 0x0A0000000007 0x0A000009 0x0A0000000009
    let req := EthAddr.bytes 0xFFFFFFFFFFFF ++ EthAddr.bytes 0x0A0000000008 ++
      arpBytes ARPOP_REQUEST 0x0A000008 0x0A0000000008 0x0A000007 0
    let down : EthAddr → Bool := fun u => u == 0x020000000002
    let after := datMeshOfFive.publish down (fun _ => []) 0x020000000001 reply fun _ => ⟨1000, []⟩
    datMeshOfFive.request 0x020000000004 req after = .left ∨
      ∃ answer ∈ datMeshOfFive.lookup down (fun _ => []) 0x020000000004 req after,
        datArpCreateReply true (arpIpSrc reply 0) (arpIpSrc req 0) (arpHwSrc reply 0)
          (arpHwSrc req 0) 0 = some answer := by
  intro reply req down after
  refine dat_lookup_hits datMeshOfFive 0x020000000001 0x020000000004 down (fun _ => [])
    (fun _ => ⟨1000, []⟩) reply req 0 0 0 (by decide) (by decide) (by decide) ?_ (by decide +kernel)
    (by decide +kernel) (by decide +kernel) (by decide +kernel) (by decide +kernel)
    (by decide +kernel) (by decide +kernel) ?_
  · intro a b ha hb
    rw [eq_of_beq ha, eq_of_beq hb]
  · intro e he
    cases he

end Batadv
