import BatmanAdv.DistributedArpTable.Arp
import BatmanAdv.Lib.Run

set_option relaxedAutoImplicit false
set_option autoImplicit false

/-!
# The distributed ARP table of a whole mesh

Nodes snoop the frames of their clients and the frames that arrive through the mesh, answer for
others, and pass on what they have read.  A wrong binding would be handed on like a right one.  It
never comes from the table itself: whatever is lost, repeated or overtaken, and whatever VLANs
collide, a binding that a node has in its cache, or that an answer states, was stated by a client in
an ARP message or a DHCP message.

## Main definitions

* `Batadv.DatNet` — the caches of the nodes, the frames that were sent, and what clients have said.
* `Batadv.datNetNext` — a frame of a client, a frame that arrives, a tick of a clock, a purge.

## Main results

* `Batadv.DatNet.Inv.next` — a step invents no binding.
* `Batadv.dat_invents_nothing` — the bindings of all caches and all answers were said before.
-/

namespace Batadv

/-! ### The mesh -/

/-- A mesh: the caches of the nodes, the frames that were sent through the mesh, the bindings that
clients have said, and the answers that clients were given by their own nodes. -/
structure DatNet where
  cache : ℕ → DatCache
  sent : List (List U8)
  said : List (U32 × EthAddr)
  answers : List (List U8)

/-- The binding of an addition. -/
def DatAddition.binding (a : DatAddition) : U32 × EthAddr := (a.ip, a.macAddr)

/-- The bindings that a frame of a client says: in an ARP message, or in a DHCP message as its own
node or another one reads it. -/
def frameBindings (skb : List U8) : List (U32 × EthAddr) :=
  datBindings skb 0 ++ (interfaceTxDhcpAck true true skb).map DatAddition.binding ++
    (datSnoopIncomingDhcpAck true skb 0).map DatAddition.binding

/-- Calls of `batadv_dat_entry_add`. -/
def datEntriesAdd (alloc : Bool) (s : DatCache) (additions : List DatAddition) : DatCache :=
  additions.foldl (fun s a => datEntryAdd s a.ip a.macAddr a.vid alloc) s

/-- The reply that `batadv_dat_put_dhcp` sends to the candidates. -/
def datPutDhcpFrame : List DatAddition → List (List U8)
  | [client, server] =>
    (datArpCreateReply true client.ip server.ip client.macAddr server.macAddr client.vid).toList
  | _ => []

/-- The frames that go into the mesh with a frame of a client: a request that is answered at its
node or left to others does not, unless it is broadcast. -/
def datTxSent (bcast : Bool) (request : DatRequest) (skb : List U8) : List (List U8) :=
  match request with
  | .left => if bcast then [skb] else []
  | .answered _ => if bcast then [skb] else []
  | _ => [skb]

/-- The answer to a request. -/
def DatRequest.answer : DatRequest → List (List U8)
  | .answered reply => [reply]
  | _ => []

/-- What `batadv_interface_tx` does for the table with a frame of a client of the node `u`.  A frame
that is not broadcast is snooped as a reply, too, unless DAT has dealt with it. -/
def datInterfaceTx (node : DatNode) (alloc : Bool × Bool) (bcast : Bool) (u : ℕ) (skb : List U8)
    (t : DatNet) : DatNet :=
  let additions := interfaceTxDhcpAck node.distributedArpTable alloc.2 skb
  let s := datEntriesAdd alloc.1 (t.cache u) additions
  let (s, request) := datSnoopOutgoingArpRequest node alloc skb s
  let s := if bcast then s
    else
      match request with
      | .left | .answered _ | .forwarded _ _ => s
      | _ => (datSnoopOutgoingArpReply node alloc skb s).1
  { cache := Function.update t.cache u s
    sent := t.sent ++ datPutDhcpFrame additions ++ datTxSent bcast request skb
    said := t.said ++ frameBindings skb
    answers := t.answers ++ request.answer }

/-- What `batadv_recv_unicast_packet` and `batadv_recv_bcast_packet` do for the table with a frame
that arrives at the node `u` behind a header.  `replySent` says whether a reply can be sent. -/
def datRecv (node : DatNode) (alloc : Bool × Bool) (replySent : Bool) (u : ℕ) (hdr frame : List U8)
    (t : DatNet) : DatNet :=
  let skb := hdr ++ frame
  let (s, reply) := datSnoopIncomingArpRequest node alloc skb hdr.length (t.cache u)
  match reply.filter fun _ => replySent with
  | some reply =>
    { t with cache := Function.update t.cache u s, sent := t.sent ++ [reply] }
  | none =>
    let (s, dropped) := datSnoopIncomingArpReply node alloc skb hdr.length s
    let s := if dropped then s
      else
        datEntriesAdd alloc.1 s (datSnoopIncomingDhcpAck node.distributedArpTable skb hdr.length)
    { t with cache := Function.update t.cache u s }

/-- A step: a client of a node sends a frame, a frame that was sent arrives at some node, the clock
of a node ticks, or a node purges its cache. -/
inductive DatNetEvent
  | client (node : DatNode) (alloc : Bool × Bool) (bcast : Bool) (u : ℕ) (skb : List U8)
  | recv (node : DatNode) (alloc : Bool × Bool) (replySent : Bool) (u : ℕ) (hdr : List U8) (i : ℕ)
  | tick (u : ℕ)
  | purge (u : ℕ)

variable (msecsToJiffies : ℕ → Jiffies)

/-- The mesh after a step. -/
def datNetNext (t : DatNet) : DatNetEvent → DatNet
  | .client node alloc bcast u skb => datInterfaceTx node alloc bcast u skb t
  | .recv node alloc replySent u hdr i =>
    match t.sent[i]? with
    | none => t
    | some frame => datRecv node alloc replySent u hdr frame t
  | .tick u =>
    { t with cache := Function.update t.cache u (datStep msecsToJiffies (t.cache u) .tick) }
  | .purge u =>
    { t with cache := Function.update t.cache u (datStep msecsToJiffies (t.cache u) .purge) }

/-- The mesh in the beginning, for the clocks of the nodes. -/
def datNetInit (jiffies : ℕ → Jiffies) : DatNet := ⟨fun u => ⟨jiffies u, []⟩, [], [], []⟩

/-! ### Caches that say nothing new -/

/-- Everything in a cache was said, and is stored for its own address. -/
def DatCache.Says (said : List (U32 × EthAddr)) (s : DatCache) : Prop :=
  ∀ e ∈ s.hash, e.2.ip = e.1.2 ∧ (e.2.ip, e.2.macAddr) ∈ said

variable {msecsToJiffies} {said said' : List (U32 × EthAddr)} {s : DatCache}

lemma DatCache.Says.mono (h : s.Says said) (hsub : said ⊆ said') : s.Says said' :=
  fun e he => ⟨(h e he).1, hsub (h e he).2⟩

/-- What is found was said. -/
lemma DatCache.Says.find (h : s.Says said) {ip : U32} {vid : U16} {e : DatEntry}
    (he : datEntryHashFind s ip vid = some e) : e.ip = ip ∧ (ip, e.macAddr) ∈ said := by
  obtain ⟨hip, hsaid⟩ := h _ (Table.mem_of_get he)
  have hip' : e.ip = ip := hip
  exact ⟨hip', by rw [← hip']; exact hsaid⟩

/-- Adding a binding that was said. -/
lemma DatCache.Says.add (h : s.Says said) {ip : U32} {macAddr : EthAddr} (hb : (ip, macAddr) ∈ said)
    (vid : U16) (alloc : Bool) : (datEntryAdd s ip macAddr vid alloc).Says said := by
  have hset : ∀ entry : DatEntry, entry.ip = ip → entry.macAddr = macAddr →
      ∀ e ∈ s.hash.set (datSlot ip vid) entry, e.2.ip = e.1.2 ∧ (e.2.ip, e.2.macAddr) ∈ said := by
    rintro entry hip hmac e he
    have hcases : e ∈ s.hash ∨ e = (datSlot ip vid, entry) := by
      unfold Table.set at he
      split_ifs at he
      · exact Table.mem_replace he
      · exact (List.mem_cons.mp he).symm
    rcases hcases with he | rfl
    · exact h e he
    · refine ⟨hip, ?_⟩
      rw [hip, hmac]
      exact hb
  unfold datEntryAdd
  cases hfind : datEntryHashFind s ip vid with
  | some e => exact hset _ (h.find hfind).1 rfl
  | none =>
    cases alloc with
    | false => exact h
    | true => exact hset _ rfl rfl

lemma DatCache.Says.addAll (h : s.Says said) (alloc : Bool) {additions : List DatAddition}
    (ha : ∀ a ∈ additions, a.binding ∈ said) : (datEntriesAdd alloc s additions).Says said := by
  induction additions generalizing s with
  | nil => exact h
  | cons a additions ih =>
    exact ih (h.add (ha a List.mem_cons_self) a.vid alloc)
      fun b hb => ha b (List.mem_cons_of_mem _ hb)

lemma DatCache.Says.step (h : s.Says said) :
    (datStep msecsToJiffies s .tick).Says said ∧ (datStep msecsToJiffies s .purge).Says said :=
  ⟨h, fun e he => h e (List.mem_of_mem_filter he)⟩

/-! ### The handlers invent nothing -/

variable {node : DatNode} {alloc : Bool × Bool} {skb : List U8} {hdrSize : ℕ}

/-- The sender of a request. -/
lemma datBindings_of_request {n : ℕ} (hn : (datGetVid skb hdrSize).2 = n)
    (htype : arpGetType skb n = ARPOP_REQUEST) :
    datBindings skb hdrSize = [(arpIpSrc skb n, arpHwSrc skb n)] := by
  unfold datBindings arpBindings
  rw [hn, if_pos htype]

/-- The sender and the target of a reply. -/
lemma datBindings_of_reply {n : ℕ} (hn : (datGetVid skb hdrSize).2 = n)
    (htype : arpGetType skb n = ARPOP_REPLY) :
    datBindings skb hdrSize =
      [(arpIpSrc skb n, arpHwSrc skb n), (arpIpDst skb n, arpHwDst skb n)] := by
  unfold datBindings arpBindings
  rw [hn, htype, if_neg (by decide), if_pos rfl]

variable (node alloc) in
lemma says_outgoingRequest (h : s.Says said) (hsaid : ∀ b ∈ datBindings skb 0, b ∈ said) :
    (datSnoopOutgoingArpRequest node alloc skb s).1.Says said ∧
      ∀ f ∈ (datSnoopOutgoingArpRequest node alloc skb s).2.answer,
        ∀ b ∈ datBindings f 0, b ∈ said := by
  unfold datSnoopOutgoingArpRequest
  split_ifs with hdat
  · exact ⟨h, by simp [DatRequest.answer]⟩
  obtain ⟨vid, n, hvid⟩ : ∃ vid n, datGetVid skb 0 = (vid, n) := ⟨_, _, rfl⟩
  rw [hvid]
  simp only
  split_ifs with htype
  · exact ⟨h, by simp [DatRequest.answer]⟩
  rw [datBindings_of_request (congrArg Prod.snd hvid) (not_not.mp htype)] at hsaid
  have hsrc := hsaid _ (List.mem_singleton_self _)
  have h1 := h.add hsrc vid alloc.1
  set s1 := datEntryAdd s (arpIpSrc skb n) (arpHwSrc skb n) vid alloc.1
  cases hfind : datEntryHashFind s1 (arpIpDst skb n) vid with
  | none => exact ⟨h1, by simp [DatRequest.answer]⟩
  | some datEntry =>
    simp only
    split_ifs
    · exact ⟨h1, by simp [DatRequest.answer]⟩
    · exact ⟨h1, by simp [DatRequest.answer]⟩
    cases hreply : datArpCreateReply alloc.2 (arpIpDst skb n) (arpIpSrc skb n) datEntry.macAddr
        (arpHwSrc skb n) vid with
    | none => exact ⟨h1, by simp [DatRequest.answer]⟩
    | some reply =>
      refine ⟨h1, fun f hf b hb => ?_⟩
      rw [List.mem_singleton.mp hf] at hb
      rcases arpFields_datArpCreateReply hreply b hb with rfl | rfl
      · exact (h1.find hfind).2
      · exact hsrc

variable (node alloc) in
lemma says_incomingRequest (h : s.Says said) (hsaid : ∀ b ∈ datBindings skb hdrSize, b ∈ said) :
    (datSnoopIncomingArpRequest node alloc skb hdrSize s).1.Says said ∧
      ∀ f, (datSnoopIncomingArpRequest node alloc skb hdrSize s).2 = some f →
        ∀ b ∈ datBindings f 0, b ∈ said := by
  unfold datSnoopIncomingArpRequest
  split_ifs with hdat
  · exact ⟨h, by simp⟩
  obtain ⟨vid, n, hvid⟩ : ∃ vid n, datGetVid skb hdrSize = (vid, n) := ⟨_, _, rfl⟩
  rw [hvid]
  simp only
  split_ifs with htype
  · exact ⟨h, by simp⟩
  rw [datBindings_of_request (congrArg Prod.snd hvid) (not_not.mp htype)] at hsaid
  have hsrc := hsaid _ (List.mem_singleton_self _)
  have h1 := h.add hsrc vid alloc.1
  set s1 := datEntryAdd s (arpIpSrc skb n) (arpHwSrc skb n) vid alloc.1
  cases hfind : datEntryHashFind s1 (arpIpDst skb n) vid with
  | none => exact ⟨h1, by simp⟩
  | some datEntry =>
    refine ⟨h1, fun f hf b hb => ?_⟩
    rcases arpFields_datArpCreateReply hf b hb with rfl | rfl
    · exact (h1.find hfind).2
    · exact hsrc

lemma says_outgoingReply (h : s.Says said) (hsaid : ∀ b ∈ datBindings skb 0, b ∈ said) :
    (datSnoopOutgoingArpReply node alloc skb s).1.Says said := by
  unfold datSnoopOutgoingArpReply
  split_ifs with hdat
  · exact h
  obtain ⟨vid, n, hvid⟩ : ∃ vid n, datGetVid skb 0 = (vid, n) := ⟨_, _, rfl⟩
  rw [hvid]
  simp only
  split_ifs with htype
  · exact h
  rw [datBindings_of_reply (congrArg Prod.snd hvid) (not_not.mp htype)] at hsaid
  exact (h.add (hsaid _ (by simp)) vid alloc.1).add (hsaid _ (by simp)) vid alloc.2

variable (node alloc) in
lemma says_incomingReply (h : s.Says said) (hsaid : ∀ b ∈ datBindings skb hdrSize, b ∈ said) :
    (datSnoopIncomingArpReply node alloc skb hdrSize s).1.Says said := by
  unfold datSnoopIncomingArpReply
  split_ifs with hdat
  · exact h
  obtain ⟨vid, n, hvid⟩ : ∃ vid n, datGetVid skb hdrSize = (vid, n) := ⟨_, _, rfl⟩
  rw [hvid]
  simp only
  split_ifs with htype hdropped
  · exact h
  all_goals
    rw [datBindings_of_reply (congrArg Prod.snd hvid) (not_not.mp htype)] at hsaid
    exact (h.add (hsaid _ (by simp)) vid alloc.1).add (hsaid _ (by simp)) vid alloc.2

/-! ### Frames that say nothing new -/

/-- Everything that a node can read in a frame was said. -/
def FrameSays (said : List (U32 × EthAddr)) (f : List U8) : Prop :=
  (∀ b ∈ datBindings f 0, b ∈ said) ∧
    ∀ a ∈ datSnoopIncomingDhcpAck true f 0, a.binding ∈ said

lemma FrameSays.mono {f : List U8} (h : FrameSays said f) (hsub : said ⊆ said') :
    FrameSays said' f := ⟨fun b hb => hsub (h.1 b hb), fun a ha => hsub (h.2 a ha)⟩

/-- A reply that was created is no DHCP message. -/
lemma datSnoopIncomingDhcpAck_reply {alloc : Bool} {ipSrc ipDst : U32} {hwSrc hwDst : EthAddr}
    {vid : U16} {f : List U8}
    (hf : datArpCreateReply alloc ipSrc ipDst hwSrc hwDst vid = some f) :
    datSnoopIncomingDhcpAck true f 0 = [] := by
  have hproto : ethProto f 0 ≠ ETH_P_IP := by
    obtain ⟨-, rfl⟩ := datArpCreateReply_eq_some_iff.mp hf
    obtain ⟨-, -, hn16, -⟩ := beWord_bytes
    by_cases htag : vid &&& VLAN_HAS_TAG = 0
    · have hlen : (datReplyPrefix hwSrc hwDst vid).length = 0 + 12 := by
        unfold datReplyPrefix
        rw [if_neg (not_not.mpr htag)]
        rfl
      rw [(arpFields_arpBytes _ _ _ _ _ _ 0 hlen).1]
      decide
    · have hpre : datReplyPrefix hwSrc hwDst vid ++ arpBytes ARPOP_REPLY ipSrc hwSrc ipDst hwDst =
          (EthAddr.bytes hwDst ++ EthAddr.bytes hwSrc) ++ (htonsBytes ETH_P_8021Q ++
            (htonsBytes (vid &&& VLAN_VID_MASK) ++
              arpBytes ARPOP_REPLY ipSrc hwSrc ipDst hwDst)) := by
        unfold datReplyPrefix
        rw [if_pos htag]
        simp only [List.append_assoc]
      have h8021q : ethProto (datReplyPrefix hwSrc hwDst vid ++
          arpBytes ARPOP_REPLY ipSrc hwSrc ipDst hwDst) 0 = ETH_P_8021Q := by
        rw [hpre]
        exact (congrArg (beWord 16) (bytesAt_append _ _ 0 2)).trans (hn16 ETH_P_8021Q)
      rw [h8021q]
      decide
  unfold datSnoopIncomingDhcpAck
  simp only [Bool.not_true, Bool.false_eq_true, if_false]
  split_ifs
  · rfl
  · rw [datCheckDhcpAck_of_proto_ne (by simpa using hproto)]

/-- A reply that states bindings that were said. -/
lemma frameSays_reply {alloc : Bool} {ipSrc ipDst : U32} {hwSrc hwDst : EthAddr} {vid : U16}
    {f : List U8} (hf : datArpCreateReply alloc ipSrc ipDst hwSrc hwDst vid = some f)
    (hb : ∀ b ∈ datBindings f 0, b ∈ said) : FrameSays said f := by
  refine ⟨hb, fun a ha => ?_⟩
  rw [datSnoopIncomingDhcpAck_reply hf] at ha
  cases ha

/-- The frame of a client says what it says. -/
lemma frameSays_frameBindings (skb : List U8) : FrameSays (frameBindings skb) skb := by
  refine ⟨fun b hb => ?_, fun a ha => ?_⟩
  · exact List.mem_append_left _ (List.mem_append_left _ hb)
  · exact List.mem_append_right _ (List.mem_map_of_mem ha)

/-- What is added for a DHCP message of a client, for all of its node's settings. -/
lemma interfaceTxDhcpAck_subset (distributedArpTable alloc : Bool) (skb : List U8) :
    interfaceTxDhcpAck distributedArpTable alloc skb = [] ∨
      interfaceTxDhcpAck distributedArpTable alloc skb = interfaceTxDhcpAck true true skb := by
  cases distributedArpTable with
  | false =>
    left
    unfold interfaceTxDhcpAck
    cases interfaceTxProto skb <;> rfl
  | true =>
    cases alloc with
    | false => exact .inl ((interfaceTxDhcpAck_eq_nil_iff false skb).2 fun _ => rfl)
    | true => exact .inr rfl

/-- The bindings of a client's DHCP message. -/
lemma binding_mem_frameBindings {distributedArpTable alloc : Bool} {skb : List U8} :
    ∀ a ∈ interfaceTxDhcpAck distributedArpTable alloc skb, a.binding ∈ frameBindings skb := by
  intro a ha
  rcases interfaceTxDhcpAck_subset distributedArpTable alloc skb with h | h
  · rw [h] at ha
    cases ha
  · rw [h] at ha
    exact List.mem_append_left _ (List.mem_append_right _ (List.mem_map_of_mem ha))

/-- What is passed on for a DHCP message. -/
lemma frameSays_putDhcp {additions : List DatAddition}
    (ha : ∀ a ∈ additions, a.binding ∈ said) :
    ∀ f ∈ datPutDhcpFrame additions, FrameSays said f := by
  intro f hf
  unfold datPutDhcpFrame at hf
  split at hf
  · rename_i client server
    rw [Option.mem_toList] at hf
    refine frameSays_reply hf fun b hb => ?_
    rcases arpFields_datArpCreateReply hf b hb with rfl | rfl
    · exact ha client List.mem_cons_self
    · exact ha server (List.mem_cons_of_mem _ List.mem_cons_self)
  · cases hf

/-! ### The mesh invents nothing -/

/-- **No node knows or sends a binding that was not said.** -/
structure DatNet.Inv (t : DatNet) : Prop where
  cache : ∀ u, (t.cache u).Says t.said
  sent : ∀ f ∈ t.sent, FrameSays t.said f
  answers : ∀ f ∈ t.answers, ∀ b ∈ datBindings f 0, b ∈ t.said

lemma datNetInit_inv (jiffies : ℕ → Jiffies) : (datNetInit jiffies).Inv where
  cache _ := fun _ he => by cases he
  sent _ hf := by cases hf
  answers _ hf := by cases hf

variable {t : DatNet}

/-- One cache has changed. -/
lemma DatNet.Inv.update (h : t.Inv) (hsub : t.said ⊆ said) (hs : s.Says said) (u v : ℕ) :
    (Function.update t.cache u s v).Says said := by
  by_cases hv : v = u
  · rw [hv, Function.update_self]
    exact hs
  · rw [Function.update_of_ne hv]
    exact (h.cache v).mono hsub

/-- A frame of a client. -/
lemma DatNet.Inv.client (h : t.Inv) (bcast : Bool) (u : ℕ) :
    (datInterfaceTx node alloc bcast u skb t).Inv := by
  have hold : t.said ⊆ t.said ++ frameBindings skb := List.subset_append_left _ _
  have hnew : frameBindings skb ⊆ t.said ++ frameBindings skb := List.subset_append_right _ _
  have hskb : FrameSays (t.said ++ frameBindings skb) skb :=
    (frameSays_frameBindings skb).mono hnew
  have hdhcp : ∀ a ∈ interfaceTxDhcpAck node.distributedArpTable alloc.2 skb,
      a.binding ∈ t.said ++ frameBindings skb :=
    fun a ha => hnew (binding_mem_frameBindings a ha)
  have hadded := ((h.cache u).mono hold).addAll alloc.1 hdhcp
  obtain ⟨hrequest, hanswer⟩ := says_outgoingRequest node alloc hadded hskb.1
  unfold datInterfaceTx
  set r := datSnoopOutgoingArpRequest node alloc skb
    (datEntriesAdd alloc.1 (t.cache u)
      (interfaceTxDhcpAck node.distributedArpTable alloc.2 skb)) with hr
  refine ⟨?_, ?_, ?_⟩
  · intro v
    refine h.update hold ?_ u v
    split_ifs
    · exact hrequest
    · split
      · exact hrequest
      · exact hrequest
      · exact hrequest
      · exact says_outgoingReply hrequest hskb.1
  · intro f hf
    rcases List.mem_append.mp hf with hf | hf
    · rcases List.mem_append.mp hf with hf | hf
      · exact (h.sent f hf).mono hold
      · exact frameSays_putDhcp hdhcp f hf
    · have hf : f = skb := by
        unfold datTxSent at hf
        split at hf
        · split_ifs at hf
          · exact List.mem_singleton.mp hf
          · cases hf
        · split_ifs at hf
          · exact List.mem_singleton.mp hf
          · cases hf
        · exact List.mem_singleton.mp hf
      rw [hf]
      exact hskb
  · intro f hf b hb
    rcases List.mem_append.mp hf with hf | hf
    · exact hold (h.answers f hf b hb)
    · exact hanswer f hf b hb

/-- What is read behind a header. -/
lemma FrameSays.behind {frame : List U8} (h : FrameSays said frame) (distributedArpTable : Bool)
    (hdr : List U8) :
    (∀ b ∈ datBindings (hdr ++ frame) hdr.length, b ∈ said) ∧
      ∀ a ∈ datSnoopIncomingDhcpAck distributedArpTable (hdr ++ frame) hdr.length,
        a.binding ∈ said := by
  refine ⟨by rw [datBindings_append]; exact h.1, fun a ha => ?_⟩
  cases distributedArpTable with
  | false => cases ha
  | true =>
    rw [datSnoopIncomingDhcpAck_append] at ha
    exact h.2 a ha

/-- A reply is created for a request. -/
lemma frameSays_incomingRequest {f : List U8}
    (hf : (datSnoopIncomingArpRequest node alloc skb hdrSize s).2 = some f)
    (hb : ∀ b ∈ datBindings f 0, b ∈ said) : FrameSays said f := by
  unfold datSnoopIncomingArpRequest at hf
  split_ifs at hf
  obtain ⟨vid, n, hvid⟩ : ∃ vid n, datGetVid skb hdrSize = (vid, n) := ⟨_, _, rfl⟩
  rw [hvid] at hf
  simp only at hf
  split_ifs at hf
  cases hfind : datEntryHashFind (datEntryAdd s (arpIpSrc skb n) (arpHwSrc skb n) vid alloc.1)
      (arpIpDst skb n) vid with
  | none =>
    rw [hfind] at hf
    cases hf
  | some datEntry =>
    rw [hfind] at hf
    exact frameSays_reply hf hb

/-- A frame that arrives. -/
lemma DatNet.Inv.recv (h : t.Inv) (replySent : Bool) (u : ℕ) (hdr : List U8) {frame : List U8}
    (hframe : frame ∈ t.sent) : (datRecv node alloc replySent u hdr frame t).Inv := by
  obtain ⟨harp, hdhcp⟩ := (h.sent frame hframe).behind node.distributedArpTable hdr
  obtain ⟨hrequest, hreply⟩ := says_incomingRequest node alloc (h.cache u) harp
  unfold datRecv
  set r := datSnoopIncomingArpRequest node alloc (hdr ++ frame) hdr.length (t.cache u) with hr
  dsimp only
  cases hsent : r.2.filter fun _ => replySent with
  | some reply =>
    have hmem : r.2 = some reply := (Option.filter_eq_some_iff.mp hsent).1
    refine ⟨fun v => h.update (List.Subset.refl _) hrequest u v, fun f hf => ?_, h.answers⟩
    rcases List.mem_append.mp hf with hf | hf
    · exact h.sent f hf
    · rw [List.mem_singleton.mp hf]
      exact frameSays_incomingRequest hmem (hreply reply hmem)
  | none =>
    refine ⟨fun v => h.update (List.Subset.refl _) ?_ u v, h.sent, h.answers⟩
    have hsnooped := says_incomingReply node alloc hrequest harp
    split_ifs
    · exact hsnooped
    · exact hsnooped.addAll alloc.1 hdhcp

/-- **A step invents no binding.** -/
theorem DatNet.Inv.next (h : t.Inv) (e : DatNetEvent) : (datNetNext msecsToJiffies t e).Inv := by
  cases e with
  | client node alloc bcast u skb => exact h.client bcast u
  | recv node alloc replySent u hdr i =>
    unfold datNetNext
    dsimp only
    cases hi : t.sent[i]? with
    | none => exact h
    | some frame => exact h.recv replySent u hdr (List.mem_of_getElem? hi)
  | tick u =>
    exact ⟨fun v => h.update (List.Subset.refl _) ((h.cache u).step.1) u v, h.sent, h.answers⟩
  | purge u =>
    exact ⟨fun v => h.update (List.Subset.refl _) ((h.cache u).step.2) u v, h.sent, h.answers⟩

/-- **The table invents nothing**: at every moment, a binding that is found in a node's cache, and a
binding of an answer, was said by a client in an ARP message or a DHCP message.

**Proof sketch.** Caches, frames and answers hold bindings that were said only.  What a handler adds
it reads in the frame; a reply states the sender of the request and what the cache says about its
target, and whoever reads the reply reads these two. -/
theorem dat_invents_nothing (msecsToJiffies : ℕ → Jiffies) (jiffies : ℕ → Jiffies)
    (events : List DatNetEvent) :
    ∀ t ∈ Run.states (datNetNext msecsToJiffies) (datNetInit jiffies) events,
      (∀ u ip vid e, datEntryHashFind (t.cache u) ip vid = some e → (ip, e.macAddr) ∈ t.said) ∧
        ∀ f ∈ t.answers, ∀ b ∈ datBindings f 0, b ∈ t.said := by
  intro t ht
  have hsteps : Run.AllSteps (datNetNext msecsToJiffies) (fun _ _ => True) (datNetInit jiffies)
      events := .of_forall (fun _ _ => trivial) events
  have h : t.Inv := hsteps.forall_mem_states DatNet.Inv (fun _ e h _ => h.next e)
    (datNetInit_inv jiffies) t ht
  exact ⟨fun u ip vid e he => ((h.cache u).find he).2, h.answers⟩

/-- A reply of the client of the node 0 to another client. -/
def datClientReply : List U8 :=
  EthAddr.bytes 0x0A0000000009 ++ EthAddr.bytes 0x0A0000000007 ++
    arpBytes ARPOP_REPLY 0x0A000007 0x0A0000000007 0x0A000009 0x0A0000000009

/-- A request for that client's hardware address. -/
def datClientRequest (ip : U32) (addr : EthAddr) : List U8 :=
  EthAddr.bytes 0xffffffffffff ++ EthAddr.bytes addr ++ arpBytes ARPOP_REQUEST ip addr 0x0A000007 0

/-- A client of the node 0 sends a reply, and the node 1 receives it.  Then a client of the node 2
asks for the same address: the node 1 answers the node 2, and the node 2 another client of its
own. -/
def datReplyEvents : List DatNetEvent :=
  let node : DatNode := ⟨true, fun _ _ => false, fun _ _ => true⟩
  [.client node (true, true) false 0 datClientReply,
    .recv node (true, true) true 1 [] 0,
    .client node (true, true) true 2 (datClientRequest 0x0A000005 0x0A0000000005),
    .recv node (true, true) true 1 [] 1,
    .recv node (true, true) true 2 [] 2,
    .client node (true, true) true 2 (datClientRequest 0x0A000006 0x0A0000000006)]

/-- All of them know the sender of the reply then, and the last client was told it. -/
theorem dat_invents_nothing_reply :
    let t := Run.final (datNetNext (BitVec.ofNat 64)) (datNetInit fun _ => 1000) datReplyEvents
    ([0, 1, 2].map fun u => (datEntryHashFind (t.cache u) 0x0A000007 0).map (·.macAddr)) =
        [some 0x0A0000000007, some 0x0A0000000007, some 0x0A0000000007] ∧
      (t.answers.map fun f => datBindings f 0) =
        [[(0x0A000007, 0x0A0000000007), (0x0A000006, 0x0A0000000006)]] ∧
      (∀ u ip vid e, datEntryHashFind (t.cache u) ip vid = some e → (ip, e.macAddr) ∈ t.said) ∧
        ∀ f ∈ t.answers, ∀ b ∈ datBindings f 0, b ∈ t.said :=
  ⟨by decide +kernel, by decide +kernel, dat_invents_nothing (BitVec.ofNat 64)
    (fun _ => 1000) datReplyEvents _ (Run.final_mem_states _ _)⟩

end Batadv
