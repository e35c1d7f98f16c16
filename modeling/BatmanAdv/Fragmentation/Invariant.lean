import BatmanAdv.Fragmentation.Buffer
import BatmanAdv.Lib.Run

set_option relaxedAutoImplicit false
set_option autoImplicit false

/-!
# The invariant of the fragment chains

A chain should be in descending order, belong to one packet, and know its size; and a chain that is
merged should have as many bytes as the packet announces, since that many are reserved for it.

The size is kept in 16 bits, and the length of a fragment is added to it before the sum is compared
with the limit.  The invariant holds as long as these additions do not wrap.

## Main definitions

* `Batadv.FragChainOk`, `Batadv.FragTableOk`, `Batadv.FragHandedOk` — the invariant of a chain, of
  all chains, and what holds of a chain that is merged.
* `Batadv.FragEvent`, `Batadv.fragNext` — fragments that are received, and purges.
* `Batadv.FragWraps` — the addition wraps.

## Main results

* `Batadv.frag_invariant_iff` — a run keeps the invariant exactly when no addition wraps.
* `Batadv.frag_size_wraps` — 80000 bytes are merged into a packet of 14464.
-/

namespace Batadv

/-! ### The invariant -/

/-- The invariant of a chain: the numbers descend, all fragments belong to one packet, and the size
is the sum of the payload lengths, within the limit. -/
structure FragChainOk (chain : FragTableEntry) : Prop where
  descending : FragDescending chain.fragmentList
  packet : ∀ e ∈ chain.fragmentList, e.no = e.skb.header.no ∧
    e.skb.header.seqno = chain.seqno ∧ e.skb.header.totalSize = chain.totalSize
  size : chain.size.toNat = fragPayloadSum chain.fragmentList
  limit : chain.size.toNat ≤ fragSizeLimit

/-- All chains of an originator meet the invariant. -/
def FragTableOk (table : FragTable) : Prop := ∀ i, FragChainOk (table i)

/-- What holds of a chain that is merged: its payload has the length that the first fragment
announces, and no more bytes are copied than were reserved. -/
def FragHandedOk (r : FragBuffered) : Prop :=
  (∀ entry chain, r.handed = entry :: chain →
    fragPayloadSum r.handed = entry.skb.header.totalSize.toNat) ∧
  ∀ skbOut, r.result = .merged skbOut → (skbOut.copied : ℤ) ≤ skbOut.reserved

/-- The events in the life of the chains of an originator: a fragment of any content and of a
length up to 65535 is received, or chains are purged. -/
inductive FragEvent
  | recv (skb : FragSkb) (hlen : skb.len ≤ 65535) (jiffies : Jiffies) (alloc : FragAlloc)
  | purge (checkCb : Option (FragTableEntry → Bool))

/-- The effect of an event. -/
def fragNext (table : FragTable) : FragEvent → FragTable
  | .recv skb _ jiffies alloc => (fragSkbBuffer table skb jiffies alloc).table
  | .purge checkCb => fragPurgeOrig table checkCb

/-- What a step should do: leave chains that meet the invariant, and merge only a chain that has
the announced length. -/
def FragStepOk (table : FragTable) (e : FragEvent) : Prop :=
  FragTableOk (fragNext table e) ∧
    match e with
    | .recv skb _ jiffies alloc => FragHandedOk (fragSkbBuffer table skb jiffies alloc)
    | .purge _ => True

/-- The fragment continues the packet in its chain, and the sum of the sizes wraps. -/
def FragWraps (chain : FragTableEntry) (skb : FragSkb) : Prop :=
  chain.seqno = skb.header.seqno ∧ chain.fragmentList ≠ [] ∧
    (∀ e ∈ chain.fragmentList, e.no ≠ skb.header.no) ∧
    chain.totalSize = skb.header.totalSize ∧ chain.totalSize.toNat ≤ fragSizeLimit ∧
    2 ^ 16 ≤ chain.size.toNat + skb.payload.length

/-- When a step does so: the memory for the list entry cannot be had, or the sum of the sizes does
not wrap. -/
def FragNoWrap (table : FragTable) : FragEvent → Prop
  | .recv skb _ _ alloc => alloc.linearize = true → alloc.entry = true →
      ¬ FragWraps (table (fragBucket skb.header.seqno)) skb
  | .purge _ => True

/-! ### The check at the end of an insertion -/

/-- A cleared chain meets the invariant. -/
lemma FragChainOk.clear (chain : FragTableEntry) : FragChainOk chain.clear :=
  ⟨List.Pairwise.nil, fun _ he => (nomatch he), rfl, Nat.zero_le _⟩

/-- A chain that is handed over has the announced length. -/
def FragOutOk (out : List FragListEntry) : Prop :=
  ∀ entry chain, out = entry :: chain → fragPayloadSum out = entry.skb.header.totalSize.toNat

lemma fragOutOk_nil : FragOutOk [] := fun _ _ h => nomatch h

/-- A chain that is in order before the check, but for the limit, is in order after it, and is in
order if it is handed over. -/
lemma fragCheckChain_ok {chain chain₁ : FragTableEntry} {h : FragHeader}
    {out : List FragListEntry} (hcheck : fragCheckChain chain h = (chain₁, out))
    (hdesc : FragDescending chain.fragmentList)
    (hok : chain.totalSize = h.totalSize → chain.totalSize.toNat ≤ fragSizeLimit →
      (∀ e ∈ chain.fragmentList, e.no = e.skb.header.no ∧
        e.skb.header.seqno = chain.seqno ∧ e.skb.header.totalSize = chain.totalSize) ∧
      chain.size.toNat = fragPayloadSum chain.fragmentList) :
    FragChainOk chain₁ ∧ FragOutOk out := by
  rcases fragCheckChain_cases hcheck with
    ⟨rfl, rfl, -⟩ | ⟨hsize, htotal, hle, ⟨rfl, rfl, heq⟩ | ⟨rfl, rfl, -⟩⟩
  · exact ⟨FragChainOk.clear _, fragOutOk_nil⟩
  · obtain ⟨hpacket, hsum⟩ := hok htotal hle
    refine ⟨FragChainOk.clear _, fun entry rest hout => ?_⟩
    have hentry := (hpacket entry (hout ▸ List.mem_cons_self)).2.2
    rw [← hsum, hentry, htotal, heq]
  · obtain ⟨hpacket, hsum⟩ := hok htotal hle
    exact ⟨⟨hdesc, hpacket, hsum, hsize⟩, fragOutOk_nil⟩

/-! ### One fragment -/

/-- The length of a payload, in 16 bits. -/
lemma toNat_ofNat_payload {skb : FragSkb} (hlen : skb.len ≤ 65535) :
    (BitVec.ofNat 16 skb.payload.length).toNat = skb.payload.length := by
  have hle : FRAG_HDR_SIZE + skb.payload.length ≤ 65535 := hlen
  rw [BitVec.toNat_ofNat, Nat.mod_eq_of_lt (by omega)]

/-- **A fragment that does not make the size wrap keeps the invariant**, and if the chain is
complete with it, it has the announced length. -/
lemma fragInsertChain_ok (jiffies : Jiffies) {chain : FragTableEntry} {skb : FragSkb}
    (hchain : FragChainOk chain) (hlen : skb.len ≤ 65535) (hwrap : ¬ FragWraps chain skb) :
    FragChainOk (fragInsertChain jiffies chain skb).chain ∧
      FragOutOk (fragInsertChain jiffies chain skb).chainOut := by
  have hpayload := toNat_ofNat_payload hlen
  have hstep := fragInsertChain_spec jiffies chain skb
  generalize fragInsertChain jiffies chain skb = r at hstep ⊢
  cases hstep with
  | fresh hseq hcheck =>
    refine fragCheckChain_ok hcheck (List.pairwise_singleton _ _) fun _ _ => ⟨?_, ?_⟩
    · intro e he
      rw [List.mem_singleton.1 he]
      exact ⟨rfl, rfl, rfl⟩
    · simpa [fragPayloadSum] using hpayload
  | noPosition hseq hempty hcheck =>
    exact fragCheckChain_ok hcheck hchain.descending fun _ _ => ⟨hchain.packet, hchain.size⟩
  | duplicate hseq hne hnone => exact ⟨hchain, fragOutOk_nil⟩
  | @continued chain₁ out list hseq hne hsome hcheck =>
    obtain ⟨hperm, hdesc⟩ := fragListInsert_eq_some hsome
    refine fragCheckChain_ok hcheck (hdesc hchain.descending) fun htotal hle => ⟨?_, ?_⟩
    · intro e he
      rcases List.mem_cons.1 (hperm.mem_iff.1 he) with rfl | he
      · exact ⟨rfl, hseq.symm, htotal.symm⟩
      · exact hchain.packet e he
    · -- the number is new, so that this is where the addition could wrap
      have hnew : ∀ e ∈ chain.fragmentList, e.no ≠ skb.header.no := fun e he heq => by
        have hnone : fragListInsert ⟨skb, skb.header.no⟩ chain.fragmentList = none :=
          (fragListInsert_eq_none_iff hchain.descending).2 ⟨e, he, heq⟩
        rw [hnone] at hsome
        cases hsome
      have hlt : chain.size.toNat + skb.payload.length < 2 ^ 16 :=
        not_le.1 fun hge => hwrap ⟨hseq, hne, hnew, htotal, hle, hge⟩
      rw [BitVec.toNat_add, hpayload, Nat.mod_eq_of_lt hlt, fragPayloadSum_perm hperm,
        fragPayloadSum_cons, hchain.size, Nat.add_comm]

/-- **A fragment that makes the size wrap breaks the invariant**, or completes a chain that has
more bytes than any packet can announce.

**Proof sketch.** The size was within the limit, so that the wrapped sum is again, and the chain is
not cleared.  But its true sum is at least `2 ^ 16`. -/
lemma not_ok_of_fragWraps {jiffies : Jiffies} {chain : FragTableEntry} {skb : FragSkb}
    (hchain : FragChainOk chain) (hlen : skb.len ≤ 65535) (hwrap : FragWraps chain skb) :
    ¬ (FragChainOk (fragInsertChain jiffies chain skb).chain ∧
      FragOutOk (fragInsertChain jiffies chain skb).chainOut) := by
  obtain ⟨hseq, hne, hnew, htotal, hle, hge⟩ := hwrap
  have hpayload := toNat_ofNat_payload hlen
  have hstep := fragInsertChain_spec jiffies chain skb
  generalize fragInsertChain jiffies chain skb = r at hstep ⊢
  cases hstep with
  | fresh hne => exact absurd hseq hne
  | noPosition _ hempty => exact absurd hempty hne
  | duplicate _ _ hnone =>
    obtain ⟨e, he, heq⟩ := (fragListInsert_eq_none_iff hchain.descending).1 hnone
    exact absurd heq (hnew e he)
  | @continued chain₁ out list _ _ hsome hcheck =>
    have hperm := (fragListInsert_eq_some hsome).1
    have hsum : 2 ^ 16 ≤ fragPayloadSum list := by
      rw [fragPayloadSum_perm hperm, fragPayloadSum_cons, ← hchain.size, Nat.add_comm]
      exact hge
    rintro ⟨hok, hout⟩
    rcases fragCheckChain_cases hcheck with
      ⟨-, -, hbad⟩ | ⟨-, -, -, ⟨-, hall, -⟩ | ⟨rfl, -, -⟩⟩
    · -- the wrapped size is within the limit
      refine hbad ?_ htotal hle
      have hlimit := hchain.limit
      have hle' : FRAG_HDR_SIZE + skb.payload.length ≤ 65535 := hlen
      simp only [fragSizeLimit, FRAG_MAX_FRAG_SIZE, FRAG_HDR_SIZE, FRAG_MAX_FRAGMENTS] at *
      rw [BitVec.toNat_add, hpayload]
      omega
    · -- the chain is handed over
      cases list with
      | nil => exact absurd hperm.length_eq (by simp)
      | cons entry rest =>
        have hall : out = entry :: rest := hall
        subst hall
        have heq : fragPayloadSum (entry :: rest) = _ := hout entry rest rfl
        have hlt := entry.skb.header.totalSize.isLt
        omega
    · -- the chain is kept
      have heq := hok.size
      have hlt := (chain.size + BitVec.ofNat 16 skb.payload.length).isLt
      dsimp only at heq
      omega

/-! ### Runs -/

/-- A merged packet has room for what is copied if the chain has the announced length. -/
lemma fragMergePackets_copied_le {alloc : FragAlloc} {list : List FragListEntry}
    {skbOut : MergedSkb} (hout : FragOutOk list) (h : fragMergePackets alloc list = some skbOut) :
    (skbOut.copied : ℤ) ≤ skbOut.reserved := by
  cases list with
  | nil => cases h
  | cons entry rest =>
    have hsum := hout entry rest rfl
    rw [fragPayloadSum_cons] at hsum
    rw [fragMergePackets] at h
    split at h
    · cases h
    · obtain rfl := Option.some.inj h
      have hlen : entry.skb.len = FRAG_HDR_SIZE + entry.skb.payload.length := rfl
      dsimp only
      omega

/-- **One step keeps the invariant** exactly when its size does not wrap. -/
lemma fragStepOk_iff {table : FragTable} (htable : FragTableOk table) (e : FragEvent) :
    FragStepOk table e ↔ FragNoWrap table e := by
  cases e with
  | purge checkCb =>
    refine iff_of_true ⟨fun i => ?_, trivial⟩ trivial
    rw [fragNext, fragPurgeOrig]
    split
    · exact FragChainOk.clear _
    · exact htable i
  | recv skb hlen jiffies alloc =>
    unfold FragStepOk FragNoWrap FragHandedOk FragTableOk
    simp only [fragNext]
    by_cases halloc : alloc.linearize = true ∧ alloc.entry = true
    · obtain ⟨htab, hhanded, hresult⟩ :=
        fragSkbBuffer_of_alloc table skb jiffies alloc halloc.1 halloc.2
      simp only [halloc, forall_const, htab, hhanded]
      constructor
      · rintro ⟨hchains, hout, -⟩ hwrap
        have hchain := hchains (fragBucket skb.header.seqno)
        rw [Function.update_self] at hchain
        exact not_ok_of_fragWraps (htable _) hlen hwrap ⟨hchain, hout⟩
      · intro hwrap
        obtain ⟨hchain, hout⟩ := fragInsertChain_ok jiffies (htable _) hlen hwrap
        refine ⟨fun i => ?_, hout, fun skbOut hmerged => ?_⟩
        · by_cases hi : i = fragBucket skb.header.seqno
          · rw [hi, Function.update_self]
            exact hchain
          · rw [Function.update_of_ne hi]
            exact htable i
        · rw [hresult] at hmerged
          split at hmerged
          · cases hmerged
          split at hmerged
          · cases hmerged
          cases hmerge : fragMergePackets alloc (fragInsertChain jiffies
              (table (fragBucket skb.header.seqno)) skb).chainOut with
          | none => simp [hmerge] at hmerged
          | some skbOut' =>
            obtain rfl : skbOut' = skbOut := by simpa [hmerge] using hmerged
            exact fragMergePackets_copied_le hout hmerge
    · have hnothing := fragSkbBuffer_of_not_alloc table skb jiffies halloc
      rw [hnothing]
      refine iff_of_true ⟨htable, fun _ _ h => (nomatch h), fun _ h => (nomatch h)⟩ ?_
      exact fun hlin hentry => absurd ⟨hlin, hentry⟩ halloc

/-- **The invariant of the fragment chains.**  From a new originator on, a run leaves chains that
meet the invariant after every step, and merges only chains of the announced length, exactly when
none of its fragments makes the size of its chain wrap. -/
theorem frag_invariant_iff (es : List FragEvent) :
    Run.AllSteps fragNext FragStepOk fragTableInit es ↔
      Run.AllSteps fragNext FragNoWrap fragTableInit es := by
  have hinit : FragTableOk fragTableInit := fun i => FragChainOk.clear (fragTableInit i)
  constructor
  · exact Run.AllSteps.imp FragTableOk
      (fun table e htable hok => ⟨(fragStepOk_iff htable e).1 hok, hok.1⟩) hinit
  · exact Run.AllSteps.imp FragTableOk
      (fun table e htable hno =>
        have hok := (fragStepOk_iff htable e).2 hno
        ⟨hok, hok.1⟩) hinit

/-! ### A size that wraps -/

/-- A fragment of a packet that is announced with 14464 bytes. -/
def wrapFrag (no : BitVec 4) (len : ℕ) : FragSkb :=
  ⟨⟨50, no, 0, 0x02000000000B, 0x02000000000A, 1, 14464⟩, List.replicate len 0⟩

lemma wrapFrag_len (no : BitVec 4) (len : ℕ) : (wrapFrag no len).len = 20 + len := by
  rw [FragSkb.len, wrapFrag, List.length_replicate]
  rfl

/-- The chain after the first fragment, one with 20000 bytes. -/
def wrapChain : FragTableEntry := ⟨[⟨wrapFrag 1 20000, 1⟩], 0, 1, 20000, 14464⟩

/-- The events: a fragment with 20000 bytes, and one with 60000. -/
def wrapEvents : List FragEvent :=
  [.recv (wrapFrag 1 20000) (by rw [wrapFrag_len]; decide) 0 ⟨true, true, true⟩,
    .recv (wrapFrag 0 60000) (by rw [wrapFrag_len]; decide) 0 ⟨true, true, true⟩]

/-- **The size wraps.**  Of the two fragments, the second completes a chain of 80000 bytes, which
is merged into the room of a packet of 14464. -/
theorem frag_size_wraps :
    fragPayloadSum (fragSkbBuffer (Function.update fragTableInit (fragBucket 1) wrapChain)
        (wrapFrag 0 60000) 0 ⟨true, true, true⟩).handed = 80000 ∧
      ¬ Run.AllSteps fragNext FragStepOk fragTableInit wrapEvents := by
  have hfirst : fragInsertChain 0 (fragTableInit (fragBucket 1)) (wrapFrag 1 20000) =
      ⟨wrapChain, [], true⟩ := by
    unfold fragInsertChain
    rw [wrapFrag_len]
    rfl
  have hsecond : (fragInsertChain 0 wrapChain (wrapFrag 0 60000)).chainOut =
      [⟨wrapFrag 1 20000, 1⟩, ⟨wrapFrag 0 60000, 0⟩] := by
    unfold fragInsertChain FragTableEntry.grow
    rw [wrapFrag_len]
    rfl
  have hsum : fragPayloadSum [⟨wrapFrag 1 20000, 1⟩, ⟨wrapFrag 0 60000, 0⟩] = 80000 := by
    simp only [fragPayloadSum_cons, wrapFrag, List.length_replicate]
    rfl
  have htab : ∀ hlen, fragNext fragTableInit (.recv (wrapFrag 1 20000) hlen 0 ⟨true, true, true⟩) =
      Function.update fragTableInit (fragBucket 1) wrapChain := fun _ =>
    (fragSkbBuffer_of_alloc fragTableInit (wrapFrag 1 20000) 0 ⟨true, true, true⟩ rfl rfl).1.trans
      (congrArg (Function.update fragTableInit (fragBucket 1)) (congrArg FragInserted.chain hfirst))
  have hhanded : (fragSkbBuffer (Function.update fragTableInit (fragBucket 1) wrapChain)
      (wrapFrag 0 60000) 0 ⟨true, true, true⟩).handed =
        [⟨wrapFrag 1 20000, 1⟩, ⟨wrapFrag 0 60000, 0⟩] :=
    (fragSkbBuffer_of_alloc _ (wrapFrag 0 60000) 0 ⟨true, true, true⟩ rfl rfl).2.1.trans hsecond
  refine ⟨hhanded ▸ hsum, ?_⟩
  rintro ⟨-, ⟨-, hok, -⟩, -⟩
  rw [htab, hhanded, hsum] at hok
  exact absurd (hok _ _ rfl) (by decide)

end Batadv
