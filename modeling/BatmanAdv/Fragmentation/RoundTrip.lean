import BatmanAdv.Fragmentation.Send

set_option relaxedAutoImplicit false
set_option autoImplicit false

/-!
# From the packet to its fragments and back

The fragments of a packet arrive in any order and any number of times, between fragments of other
packets that use other chains.  The packet is delivered once, with its bytes, unless its 16-bit
sequence number is 0: a new chain carries that number from the start, so that it is taken for one
that was in use, and all fragments are dropped.

## Main definitions

* `Batadv.FragRecv`, `Batadv.fragDelivered` — fragments that arrive, and what is delivered.
* `Batadv.FragArrival` — the fragments of a packet arrive.
* `Batadv.FragRoundTrip` — whenever they do, the packet is delivered once and nothing else.
* `Batadv.FragWhole`, `Batadv.FragPending`, `Batadv.FragIdle` — the fragments of a packet, a chain
  that collects them, and one that is done.

## Main results

* `Batadv.frag_round_trip_iff` — the fragments are as they should be, and the packet makes the
  round trip exactly when its sequence number is not 0.
* `Batadv.frag_seqno_zero_lost` — a packet that is lost.
-/

namespace Batadv

/-! ### Arrival and delivery -/

/-- A fragment arrives, at some time, with some memory. -/
structure FragRecv where
  skb : FragSkb
  jiffies : Jiffies
  alloc : FragAlloc

/-- The bytes of a packet that was merged. -/
def FragResult.data : FragResult → Option (List U8)
  | .merged skbOut => some skbOut.data
  | .buffered | .dropped => none

/-- The packets that are delivered from one of the chains while fragments arrive. -/
def fragDelivered (bucket : Fin FRAG_BUFFER_COUNT) : FragTable → List FragRecv → List (List U8)
  | _, [] => []
  | table, e :: es =>
    let r := fragSkbBuffer table e.skb e.jiffies e.alloc
    (if fragBucket e.skb.header.seqno = bucket then r.result.data.toList else []) ++
      fragDelivered bucket r.table es

/-- The fragments of a packet arrive, each of them at least once and with memory for it, and no
others for the same chain. -/
structure FragArrival (sent : List FragSkb) (bucket : Fin FRAG_BUFFER_COUNT)
    (es : List FragRecv) : Prop where
  own : ∀ e ∈ es, fragBucket e.skb.header.seqno = bucket →
    e.skb ∈ sent ∧ e.alloc = ⟨true, true, true⟩
  complete : ∀ skb ∈ sent, ∃ e ∈ es, e.skb = skb

/-- Whenever the fragments of the packet arrive at an originator that is new, the packet is
delivered once and nothing else. -/
def FragRoundTrip (env : FragSendEnv) (data : List U8) (priority fragSeqno : U32) : Prop :=
  let sent := (fragSendPacket env data priority fragSeqno).emitted
  let bucket := fragBucket ((fragSeqno + 1).setWidth 16)
  ∀ es, FragArrival sent bucket es → fragDelivered bucket fragTableInit es = [data]

/-! ### Chains that are done -/

/-- The chain has the sequence number, but no fragments. -/
structure FragIdle (seqno : U16) (chain : FragTableEntry) : Prop where
  seqno : chain.seqno = seqno
  list : chain.fragmentList = []
  size : chain.size = 0

/-- A chain without fragments accepts none that has its sequence number, and stays that way. -/
lemma FragIdle.step {chain : FragTableEntry} {skb : FragSkb}
    (h : FragIdle skb.header.seqno chain) (jiffies : Jiffies) (htotal : skb.header.totalSize ≠ 0) :
    FragIdle skb.header.seqno (fragInsertChain jiffies chain skb).chain ∧
      (fragInsertChain jiffies chain skb).chainOut = [] := by
  have hstep := fragInsertChain_spec jiffies chain skb
  generalize fragInsertChain jiffies chain skb = r at hstep ⊢
  cases hstep with
  | fresh hne => exact absurd h.seqno hne
  | duplicate _ hne | continued _ hne => exact absurd h.list hne
  | noPosition _ _ hcheck =>
    rcases fragCheckChain_cases hcheck with
      ⟨rfl, hout, -⟩ | ⟨-, -, -, ⟨-, -, hsize⟩ | ⟨rfl, hout, -⟩⟩
    · exact ⟨⟨h.seqno, rfl, rfl⟩, hout⟩
    · exact absurd (hsize.trans h.size) htotal
    · exact ⟨h, hout⟩

/-- What a fragment does to the chains: its own chain changes by the insertion, the others do not
change, and the packet that is delivered is the chain that is handed over. -/
lemma fragSkbBuffer_own (table : FragTable) (skb : FragSkb) (jiffies : Jiffies) :
    let r := fragInsertChain jiffies (table (fragBucket skb.header.seqno)) skb
    let b := fragSkbBuffer table skb jiffies ⟨true, true, true⟩
    b.table (fragBucket skb.header.seqno) = r.chain ∧
      (r.chainOut = [] → b.result.data = none) ∧
      (r.chainOut ≠ [] → b.result.data = some (r.chainOut.flatMap (fun e => e.skb.payload))) := by
  obtain ⟨htable, -, hresult⟩ :=
    fragSkbBuffer_of_alloc table skb jiffies ⟨true, true, true⟩ rfl rfl
  have hnil := fragInsertChain_chainOut_of_not_ret jiffies (table (fragBucket skb.header.seqno)) skb
  dsimp only
  rw [htable, Function.update_self, hresult]
  refine ⟨rfl, fun hout => ?_, fun hout => ?_⟩
  · split
    · rfl
    · rfl
  · rw [if_neg (fun hret => hout (hnil hret)), if_neg hout]
    obtain ⟨entry, rest, hcons⟩ := List.exists_cons_of_ne_nil hout
    rw [hcons]
    rfl

/-- A fragment of another chain changes nothing here. -/
lemma fragSkbBuffer_other (table : FragTable) (skb : FragSkb) (jiffies : Jiffies)
    (alloc : FragAlloc) {bucket : Fin FRAG_BUFFER_COUNT}
    (h : fragBucket skb.header.seqno ≠ bucket) :
    (fragSkbBuffer table skb jiffies alloc).table bucket = table bucket := by
  by_cases halloc : alloc.linearize = true ∧ alloc.entry = true
  · rw [(fragSkbBuffer_of_alloc table skb jiffies alloc halloc.1 halloc.2).1,
      Function.update_of_ne h.symm]
  · rw [fragSkbBuffer_of_not_alloc table skb jiffies halloc]

/-- A chain that is done delivers nothing more. -/
lemma fragDelivered_of_idle {bucket : Fin FRAG_BUFFER_COUNT} {seqno : U16} {table : FragTable}
    {es : List FragRecv} (hidle : FragIdle seqno (table bucket))
    (hown : ∀ e ∈ es, fragBucket e.skb.header.seqno = bucket →
      e.skb.header.seqno = seqno ∧ e.skb.header.totalSize ≠ 0 ∧ e.alloc = ⟨true, true, true⟩) :
    fragDelivered bucket table es = [] := by
  induction es generalizing table with
  | nil => rfl
  | cons e es ih =>
    have hrest := fun e' he' => hown e' (List.mem_cons_of_mem e he')
    rw [fragDelivered]
    by_cases hb : fragBucket e.skb.header.seqno = bucket
    · obtain ⟨hseq, htotal, halloc⟩ := hown e List.mem_cons_self hb
      obtain ⟨htable, hnone, -⟩ := fragSkbBuffer_own table e.skb e.jiffies
      subst hb hseq
      obtain ⟨hidle', hout⟩ := hidle.step e.jiffies htotal
      rw [halloc, if_pos rfl, hnone hout, ih (htable ▸ hidle') hrest]
      rfl
    · rw [if_neg hb, ih (by rwa [fragSkbBuffer_other table e.skb e.jiffies e.alloc hb]) hrest]
      rfl

/-! ### Chains that collect -/

/-- The fragments of a packet as a chain has them: in descending order, with one sequence number
and the packet's size, none of them empty. -/
structure FragWhole (seqno totalSize : U16) (whole : List FragListEntry) : Prop where
  descending : FragDescending whole
  packet : ∀ e ∈ whole, e.no = e.skb.header.no ∧
    e.skb.header.seqno = seqno ∧ e.skb.header.totalSize = totalSize
  nonempty : ∀ e ∈ whole, 0 < e.skb.payload.length
  size : fragPayloadSum whole = totalSize.toNat
  limit : totalSize.toNat ≤ fragSizeLimit
  pos : 0 < totalSize.toNat

/-- A packet that is not empty announces a size. -/
lemma FragWhole.totalSize_ne {seqno totalSize : U16} {whole : List FragListEntry}
    (hw : FragWhole seqno totalSize whole) : totalSize ≠ 0 := by
  rintro rfl
  exact lt_irrefl 0 hw.pos

/-- The chain has collected the given fragments of a packet, in descending order, and some are
missing.  Before the first fragment it may have any other sequence number. -/
structure FragPending (seqno totalSize : U16) (whole got : List FragListEntry)
    (chain : FragTableEntry) : Prop where
  descending : FragDescending got
  subset : got ⊆ whole
  missing : got ≠ whole
  fresh : got = [] → chain.seqno ≠ seqno
  started : got ≠ [] → chain.seqno = seqno ∧ chain.fragmentList = got ∧
    chain.size.toNat = fragPayloadSum got ∧ chain.totalSize = totalSize

/-- What the check makes of a chain of fragments of one packet: all of them are handed over, and
fewer are kept. -/
lemma fragCheckChain_of_whole {seqno totalSize : U16} {whole got : List FragListEntry}
    (hw : FragWhole seqno totalSize whole) {chain chain₁ : FragTableEntry} {h : FragHeader}
    {out : List FragListEntry} (hdesc : FragDescending got) (hsub : got ⊆ whole) (hne : got ≠ [])
    (hseq : chain.seqno = seqno) (hlist : chain.fragmentList = got)
    (hsize : chain.size.toNat = fragPayloadSum got) (htotal : chain.totalSize = totalSize)
    (hh : h.totalSize = totalSize) (hcheck : fragCheckChain chain h = (chain₁, out)) :
    (got = whole ∧ FragIdle seqno chain₁ ∧ out = whole) ∨
      (FragPending seqno totalSize whole got chain₁ ∧ out = []) := by
  have hle : fragPayloadSum got ≤ totalSize.toNat :=
    hw.size ▸ Reassembly.weight_le_of_sublist _
      (Reassembly.sublist_of_subset hdesc hw.descending hsub)
  have hlimit := hw.limit
  -- the size tells whether the fragments are all there
  have hiff : h.totalSize = chain.size ↔ got = whole := by
    rw [hh, ← BitVec.toNat_inj, hsize, ← hw.size, eq_comm]
    exact Reassembly.weight_eq_iff hdesc hw.descending hsub hw.nonempty
  rcases fragCheckChain_cases hcheck with
    ⟨-, -, hbad⟩ | ⟨-, -, -, ⟨rfl, rfl, heq⟩ | ⟨rfl, rfl, hneq⟩⟩
  · exact absurd (htotal ▸ hlimit) (hbad (by omega) (htotal.trans hh.symm))
  · exact Or.inl ⟨hiff.1 heq, ⟨hseq, rfl, rfl⟩, hlist.trans (hiff.1 heq)⟩
  · have hmissing : got ≠ whole := fun hall => hneq (hiff.2 hall)
    exact Or.inr ⟨⟨hdesc, hsub, hmissing, fun hnil => absurd hnil hne,
      fun _ => ⟨hseq, hlist, hsize, htotal⟩⟩, rfl⟩

/-- **One fragment of the packet**: it is there already and nothing happens, or it is added to the
collection, which is handed over when it is the whole packet. -/
lemma FragPending.step {seqno totalSize : U16} {whole got : List FragListEntry}
    (hw : FragWhole seqno totalSize whole) {chain : FragTableEntry} {skb : FragSkb}
    (h : FragPending seqno totalSize whole got chain) (jiffies : Jiffies)
    (hmem : ⟨skb, skb.header.no⟩ ∈ whole) :
    let r := fragInsertChain jiffies chain skb
    (⟨skb, skb.header.no⟩ ∈ got ∧ r.chain = chain ∧ r.chainOut = []) ∨
      ∃ got', got'.Perm (⟨skb, skb.header.no⟩ :: got) ∧
        ((got' = whole ∧ FragIdle seqno r.chain ∧ r.chainOut = whole) ∨
          (FragPending seqno totalSize whole got' r.chain ∧ r.chainOut = [])) := by
  obtain ⟨-, hseq, htotal⟩ := hw.packet _ hmem
  have hpayload : (BitVec.ofNat 16 skb.payload.length).toNat = skb.payload.length := by
    have hle : skb.payload.length ≤ totalSize.toNat :=
      hw.size ▸ Reassembly.le_weight_of_mem (fun e => e.skb.payload.length) hmem
    rw [BitVec.toNat_ofNat, Nat.mod_eq_of_lt (lt_of_le_of_lt hle totalSize.isLt)]
  have hstep := fragInsertChain_spec jiffies chain skb
  generalize fragInsertChain jiffies chain skb = r at hstep ⊢
  cases hstep with
  | fresh hne hcheck =>
    -- the collection starts with this fragment
    have hgot : got = [] := by
      by_contra hgot
      exact hne ((h.started hgot).1.trans hseq.symm)
    refine Or.inr ⟨[⟨skb, skb.header.no⟩], by rw [hgot], ?_⟩
    refine fragCheckChain_of_whole hw (List.pairwise_singleton _ _) (by simpa using hmem) (by simp)
      ?_ ?_ ?_ ?_ htotal hcheck
    · exact hseq
    · rfl
    · simpa [fragPayloadSum] using hpayload
    · exact htotal
  | noPosition heq hempty _ =>
    -- a collection that was started has a fragment
    exfalso
    by_cases hgot : got = []
    · exact h.fresh hgot (heq.trans hseq)
    · exact hgot ((h.started hgot).2.1.symm.trans hempty)
  | duplicate heq hne hnone =>
    have hgot : got ≠ [] := fun hgot => h.fresh hgot (heq.trans hseq)
    obtain ⟨-, hlist, -⟩ := h.started hgot
    rw [hlist] at hnone
    obtain ⟨e, he, hno⟩ := (fragListInsert_eq_none_iff h.descending).1 hnone
    have hsame := hw.descending.eq_of_no_eq (h.subset he) hmem hno
    exact Or.inl ⟨hsame ▸ he, rfl, rfl⟩
  | @continued chain₁ out list heq hne hsome hcheck =>
    have hgot : got ≠ [] := fun hgot => h.fresh hgot (heq.trans hseq)
    obtain ⟨-, hlist, hsize, htot⟩ := h.started hgot
    rw [hlist] at hsome
    obtain ⟨hperm, hdesc⟩ := fragListInsert_eq_some hsome
    have hsub : list ⊆ whole := fun e he => by
      rcases List.mem_cons.1 (hperm.mem_iff.1 he) with rfl | he
      · exact hmem
      · exact h.subset he
    have hle : fragPayloadSum list ≤ totalSize.toNat :=
      hw.size ▸ Reassembly.weight_le_of_sublist _
        (Reassembly.sublist_of_subset (hdesc h.descending) hw.descending hsub)
    rw [fragPayloadSum_perm hperm, fragPayloadSum_cons] at hle
    have hlt := totalSize.isLt
    refine Or.inr ⟨list, hperm, ?_⟩
    refine fragCheckChain_of_whole hw (hdesc h.descending) hsub ?_ ?_ ?_ ?_ ?_ htotal hcheck
    · rintro rfl
      exact absurd hperm.length_eq (by simp)
    · exact heq.trans hseq
    · rfl
    · dsimp only at hle ⊢
      rw [BitVec.toNat_add, hpayload, hsize, fragPayloadSum_perm hperm, fragPayloadSum_cons,
        Nat.mod_eq_of_lt (by omega), Nat.add_comm]
    · exact htot

/-- **A packet whose fragments all arrive is delivered once.**

**Proof sketch.** Induction on the fragments that arrive.  As long as some are missing the chain
collects them and delivers nothing; when the last one comes in the packet is delivered and the
chain is done, so that duplicates that come later are dropped. -/
lemma fragDelivered_of_pending {bucket : Fin FRAG_BUFFER_COUNT} {seqno totalSize : U16}
    {whole got : List FragListEntry} (hw : FragWhole seqno totalSize whole)
    (hbucket : fragBucket seqno = bucket) {table : FragTable} {es : List FragRecv}
    (h : FragPending seqno totalSize whole got (table bucket))
    (hown : ∀ e ∈ es, fragBucket e.skb.header.seqno = bucket →
      ⟨e.skb, e.skb.header.no⟩ ∈ whole ∧ e.alloc = ⟨true, true, true⟩)
    (hall : ∀ entry ∈ whole, entry ∈ got ∨ ∃ e ∈ es, e.skb = entry.skb) :
    fragDelivered bucket table es = [whole.flatMap (fun e => e.skb.payload)] := by
  induction es generalizing table got with
  | nil =>
    have hsub : whole ⊆ got := fun entry he => by simpa using hall entry he
    exact absurd (List.Subset.antisymm_of_pairwise h.descending hw.descending h.subset hsub)
      h.missing
  | cons e es ih =>
    have hrest := fun e' he' => hown e' (List.mem_cons_of_mem e he')
    rw [fragDelivered]
    by_cases hb : fragBucket e.skb.header.seqno = bucket
    · obtain ⟨hmem, halloc⟩ := hown e List.mem_cons_self hb
      obtain ⟨hno, hseq, htotal⟩ := hw.packet _ hmem
      obtain ⟨htable, hnone, hsome⟩ := fragSkbBuffer_own table e.skb e.jiffies
      have hcollected : ∀ entry ∈ whole, entry ∈ (⟨e.skb, e.skb.header.no⟩ :: got) ∨
          ∃ e' ∈ es, e'.skb = entry.skb := by
        intro entry he
        rcases hall entry he with hgot | ⟨e', he', heq⟩
        · exact Or.inl (List.mem_cons_of_mem _ hgot)
        · rcases List.mem_cons.1 he' with rfl | he'
          · have hsame : entry = ⟨e'.skb, e'.skb.header.no⟩ :=
              hw.descending.eq_of_no_eq he hmem (by rw [(hw.packet entry he).1, heq])
            exact Or.inl (hsame ▸ List.mem_cons_self)
          · exact Or.inr ⟨e', he', heq⟩
      rw [halloc, if_pos hb]
      subst hb
      have hstep := h.step hw e.jiffies hmem
      dsimp only at hstep
      rw [← htable] at hstep
      rcases hstep with ⟨hgot, hsame, hout⟩ | ⟨got', hperm, ⟨-, hidle, hout⟩ | ⟨hpend, hout⟩⟩
      · -- a duplicate
        rw [hnone hout]
        rw [← hsame] at h
        refine ih h hrest fun entry he => (hcollected entry he).imp_left fun hin => ?_
        rcases List.mem_cons.1 hin with rfl | hin
        · exact hgot
        · exact hin
      · -- the last fragment that was missing
        have hne : whole ≠ [] := List.ne_nil_of_mem hmem
        have hdone : ∀ e' ∈ es, fragBucket e'.skb.header.seqno = fragBucket e.skb.header.seqno →
            e'.skb.header.seqno = seqno ∧ e'.skb.header.totalSize ≠ 0 ∧
              e'.alloc = ⟨true, true, true⟩ := by
          intro e' he' hb'
          obtain ⟨hmem', halloc'⟩ := hrest e' he' hb'
          obtain ⟨-, hseq', htotal'⟩ := hw.packet _ hmem'
          exact ⟨hseq', fun hzero => hw.totalSize_ne (htotal'.symm.trans hzero), halloc'⟩
        rw [hsome (hout ▸ hne), hout, fragDelivered_of_idle hidle hdone]
        rfl
      · -- there are more to come
        rw [hnone hout]
        exact ih hpend hrest fun entry he =>
          (hcollected entry he).imp_left fun hin => hperm.mem_iff.2 hin
    · have hsame := fragSkbBuffer_other table e.skb e.jiffies e.alloc hb
      rw [if_neg hb, List.nil_append]
      rw [← hsame] at h
      refine ih h hrest fun entry he => ?_
      rcases hall entry he with hgot | ⟨e', he', heq⟩
      · exact Or.inl hgot
      · rcases List.mem_cons.1 he' with rfl | he'
        · -- the fragment belongs to another chain
          rw [heq, (hw.packet entry he).2.1] at hb
          exact absurd hbucket hb
        · exact Or.inr ⟨e', he', heq⟩

/-! ### The fragments of a packet -/

/-- The list entries of the fragments a sender emitted, from the last to the first. -/
def fragEntries (sent : List FragSkb) : List FragListEntry :=
  sent.reverse.map (fun skb => ⟨skb, skb.header.no⟩)

/-- The pieces carry the sequence number and the size of the packet. -/
lemma FragCut.packet {h : FragHeader} {first maxSize : ℕ} {data : List U8} {sent : List FragSkb}
    (hcut : FragCut h first maxSize data sent) {skb : FragSkb} (hskb : skb ∈ sent) :
    skb.header.seqno = h.seqno ∧ skb.header.totalSize = h.totalSize := by
  have hheader := hcut.headers skb hskb
  have hseq := congrArg FragHeader.seqno hheader
  have htotal := congrArg FragHeader.totalSize hheader
  exact ⟨hseq, htotal⟩

/-- A packet cut into pieces is a whole for the receiver. -/
lemma FragCut.whole {h : FragHeader} {first maxSize : ℕ} {data : List U8} {sent : List FragSkb}
    (hcut : FragCut h first maxSize data sent) (hpos : 0 < data.length)
    (hlimit : data.length ≤ fragSizeLimit) (htotal : h.totalSize = BitVec.ofNat 16 data.length) :
    FragWhole h.seqno h.totalSize (fragEntries sent) := by
  have hnat : h.totalSize.toNat = data.length := by
    rw [htotal, BitVec.toNat_ofNat, Nat.mod_eq_of_lt (lt_of_le_of_lt hlimit (by decide))]
  have hentry : ∀ e ∈ fragEntries sent, ∃ skb ∈ sent, e = ⟨skb, skb.header.no⟩ := by
    intro e he
    obtain ⟨skb, hskb, rfl⟩ := List.mem_map.1 he
    exact ⟨skb, List.mem_reverse.1 hskb, rfl⟩
  constructor
  · -- the numbers ascend as the fragments are sent
    have hasc : (sent.map (fun skb => skb.header.no.toNat)).Pairwise (· < ·) := by
      rw [hcut.numbers]
      exact List.pairwise_lt_range'
    rw [FragDescending, fragEntries, List.pairwise_map, List.pairwise_reverse]
    exact List.pairwise_map.1 hasc
  · intro e he
    obtain ⟨skb, hskb, rfl⟩ := hentry e he
    exact ⟨rfl, hcut.packet hskb⟩
  · intro e he
    obtain ⟨skb, hskb, rfl⟩ := hentry e he
    exact (hcut.sizes skb hskb).1
  · rw [hnat, ← hcut.bytes, List.length_flatMap, fragPayloadSum, Reassembly.weight, fragEntries,
      List.map_map]
    rfl
  · exact hnat ▸ hlimit
  · exact hnat ▸ hpos

/-- The bytes of the packet, read off the list entries. -/
lemma FragCut.flatMap_fragEntries {h : FragHeader} {first maxSize : ℕ} {data : List U8}
    {sent : List FragSkb} (hcut : FragCut h first maxSize data sent) :
    (fragEntries sent).flatMap (fun e => e.skb.payload) = data := by
  rw [fragEntries, List.flatMap_map, hcut.bytes]

/-- **The round trip of a packet.**  A packet that fits into 16 fragments is sent in at most 16
fragments, none of them larger than the MTU or 1280 bytes, numbered from 0.  Whenever they arrive
at an originator that is new, in any order and any number of times, between fragments for other
chains, the packet is delivered once and nothing else; exactly if its 16-bit sequence number is not
0. -/
theorem frag_round_trip_iff (env : FragSendEnv) (hready : env.Ready)
    (hmtu : FRAG_HDR_SIZE < env.mtu) (data : List U8) (hpos : 0 < data.length)
    (hfit : data.length ≤
      FRAG_MAX_FRAGMENTS * (min env.mtu FRAG_MAX_FRAG_SIZE - FRAG_HDR_SIZE))
    (priority fragSeqno : U32) :
    let sent := (fragSendPacket env data priority fragSeqno).emitted
    sent.length ≤ FRAG_MAX_FRAGMENTS ∧
      (∀ skb ∈ sent, skb.len ≤ min env.mtu FRAG_MAX_FRAG_SIZE) ∧
      sent.map (fun skb => skb.header.no.toNat) = List.range sent.length ∧
      (FragRoundTrip env data priority fragSeqno ↔ (fragSeqno + 1).setWidth 16 ≠ 0#16) := by
  intro sent
  obtain ⟨orig, -, hlen, hcut⟩ := fragSendPacket_spec hready hmtu hpos hfit priority fragSeqno
  have hlimit : data.length ≤ fragSizeLimit := by
    refine hfit.trans ?_
    rw [fragSizeLimit, Nat.mul_comm]
    exact Nat.mul_le_mul_right _ (Nat.sub_le_sub_right (Nat.min_le_right _ _) _)
  have hw : FragWhole ((fragSeqno + 1).setWidth 16) (BitVec.ofNat 16 data.length)
    (fragEntries sent) := hcut.whole hpos hlimit rfl
  refine ⟨hlen, fun skb hskb => ?_, ?_, fun htrip hzero => ?_, fun hseq es harrive => ?_⟩
  · have hsize := (hcut.sizes skb hskb).2
    have hhdr : FRAG_HDR_SIZE < FRAG_MAX_FRAG_SIZE := by decide
    rw [FragSkb.len]
    omega
  · rw [hcut.numbers, List.range_eq_range']
  · -- all fragments are dropped by the chain that has the sequence number from the start
    have hidle : FragIdle 0 (fragTableInit (fragBucket 0)) := ⟨rfl, rfl, rfl⟩
    have harrive : FragArrival sent (fragBucket 0) (sent.map (⟨·, 0, ⟨true, true, true⟩⟩)) := by
      refine ⟨fun e he _ => ?_, fun skb hskb => ⟨_, List.mem_map_of_mem hskb, rfl⟩⟩
      obtain ⟨skb, hskb, rfl⟩ := List.mem_map.1 he
      exact ⟨hskb, rfl⟩
    have hnone : fragDelivered (fragBucket 0) fragTableInit
        (sent.map (⟨·, 0, ⟨true, true, true⟩⟩)) = [] := by
      refine fragDelivered_of_idle hidle fun e he _ => ?_
      obtain ⟨skb, hskb, rfl⟩ := List.mem_map.1 he
      obtain ⟨hseq, htotal⟩ := hcut.packet hskb
      exact ⟨hseq.trans hzero, fun hno => hw.totalSize_ne (htotal.symm.trans hno), rfl⟩
    have hall : ∀ es, FragArrival sent (fragBucket ((fragSeqno + 1).setWidth 16)) es →
        fragDelivered (fragBucket ((fragSeqno + 1).setWidth 16)) fragTableInit es = [data] := htrip
    rw [hzero] at hall
    exact absurd (hnone.symm.trans (hall _ harrive)) (by simp)
  · -- the chain of a new originator is ready for any other sequence number
    have hpend : FragPending ((fragSeqno + 1).setWidth 16) (BitVec.ofNat 16 data.length)
        (fragEntries sent) [] (fragTableInit (fragBucket ((fragSeqno + 1).setWidth 16))) := by
      refine ⟨List.Pairwise.nil, List.nil_subset _, fun hnil => ?_, fun _ => hseq.symm,
        fun hne => absurd rfl hne⟩
      have hbytes := hcut.flatMap_fragEntries
      rw [← show [] = fragEntries sent from hnil] at hbytes
      rw [← hbytes] at hpos
      exact absurd hpos (lt_irrefl 0)
    rw [fragDelivered_of_pending hw rfl hpend]
    · exact congrArg (fun d => [d]) hcut.flatMap_fragEntries
    · intro e he hb
      obtain ⟨hmem, halloc⟩ := harrive.own e he hb
      exact ⟨List.mem_map.2 ⟨e.skb, List.mem_reverse.2 hmem, rfl⟩, halloc⟩
    · intro entry he
      obtain ⟨skb, hskb, rfl⟩ := List.mem_map.1 he
      exact Or.inr (harrive.complete skb (List.mem_reverse.1 hskb))

/-! ### A packet that is lost -/

/-- A sender with an MTU of 28, over which fragments carry 8 bytes. -/
def fragSender : FragSendEnv :=
  ⟨28, some 0x02000000000A, 0x02000000000B, true, fun _ => true, fun _ => true, true⟩

lemma fragSender_ready : fragSender.Ready := ⟨rfl, rfl, fun _ => rfl, fun _ => rfl, rfl⟩

/-- The round trip applies to the sender: a packet of 12 bytes with the sequence number 1 makes
it. -/
theorem frag_round_trip_iff_sender :
    FragRoundTrip fragSender (List.replicate 12 7) 0 0 :=
  (frag_round_trip_iff fragSender fragSender_ready (by decide) (List.replicate 12 7) (by decide)
    (by decide) 0 0).2.2.2.2 (by decide)

/-- **A packet is lost**: with the sequence number 65536, which is 0 in 16 bits, the two fragments
of a packet arrive at a new originator and nothing is delivered. -/
theorem frag_seqno_zero_lost :
    let sent := (fragSendPacket fragSender (List.replicate 12 7) 0 0xFFFF).emitted
    let es : List FragRecv := sent.map (⟨·, 0, ⟨true, true, true⟩⟩)
    sent.length = 2 ∧ FragArrival sent (fragBucket 0) es ∧
      fragDelivered (fragBucket 0) fragTableInit es = [] ∧
      ¬ FragRoundTrip fragSender (List.replicate 12 7) 0 0xFFFF := by
  intro sent es
  have harrive : FragArrival sent (fragBucket 0) es := by
    refine ⟨fun e he _ => ?_, fun skb hskb => ⟨_, List.mem_map_of_mem hskb, rfl⟩⟩
    obtain ⟨skb, hskb, rfl⟩ := List.mem_map.1 he
    exact ⟨hskb, rfl⟩
  have hnone : fragDelivered (fragBucket 0) fragTableInit es = [] := by decide
  refine ⟨by decide, harrive, hnone, fun htrip => ?_⟩
  exact absurd (hnone.symm.trans (htrip es harrive)) (by simp)

end Batadv
