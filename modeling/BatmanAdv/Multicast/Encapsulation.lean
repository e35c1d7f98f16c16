import BatmanAdv.Multicast.Partition
import BatmanAdv.Multicast.Push

set_option relaxedAutoImplicit false
set_option autoImplicit false

/-!
# What is pushed onto a multicast frame (`multicast_forw.c`)

When headers are pushed onto a frame, the frame is what was pushed and behind it the payload, and
`tvlv_len` is the length of what was pushed.  This is so after every step, whether it succeeds or
fails, so that pulling `tvlv_len` bytes gives the payload back.  `tvlv_len` is a number of 16 bits:
it is the length only as long as less than 64 KiB are pushed.

## Main definitions

* `Batadv.mcastHeader` — the headers of a packet for some destinations.
* `Batadv.McastPushExact` — a frame is encapsulated exactly, or left alone.
* `Batadv.McastPushed` — what was pushed so far, and the payload.
* `Batadv.McastPushSafe` — what holds after a step that succeeds; after one that fails the payload
  can be restored.

## Main results

* `Batadv.McastPushSafe.andThen` — steps one after the other.
* `Batadv.mcast_push_exact` — encapsulation is exact unless there are 64 KiB of headroom and as many
  recipients as it takes to fill them.
* `Batadv.mcast_push_not_exact` — with more it is not.
-/

namespace Batadv

/-! ### What should be pushed -/

/-- The length of the tracker TVLV, without its header. -/
def mcastTrackerLen (numDests : ℕ) : ℕ := 2 + 6 * numDests + (mcastPadding numDests).length

/-- **The headers of a multicast packet** for some destinations. -/
def mcastHeader (dests : List EthAddr) : List U8 :=
  [PACKET_MCAST, COMPAT_VERSION, TTL, 0] ++
    beBytes (BitVec.ofNat 16 (4 + mcastTrackerLen dests.length)) ++
    ([TVLV_MCAST_TRACKER, 1] ++ beBytes (BitVec.ofNat 16 (mcastTrackerLen dests.length))) ++
    beBytes (BitVec.ofNat 16 dests.length) ++
    dests.flatMap EthAddr.bytes ++ mcastPadding dests.length

/-- A frame was encapsulated: its headers are as long as `batadv_mcast_forw_packet_hdrlen` says, and
the lengths and the number of destinations fit into their fields. -/
structure McastEncapsulated (payload : List U8) (dests : List EthAddr) (data : List U8) : Prop where
  data_eq : data = mcastHeader dests ++ payload
  length_header : (mcastHeader dests).length = mcastForwPacketHdrlen dests.length
  fits : 4 + mcastTrackerLen dests.length < 2 ^ 16

/-- **Encapsulation is exact or leaves the frame alone**: the packet lists the originators that were
found, from the last one on, and on failure the payload is the frame. -/
structure McastPushExact (f : McastForwarder) (frame : McastFrame) (vid isRoutable : U16)
    (count : ℤ) : Prop where
  encapsulated : (mcastForwPush f frame vid isRoutable count).1 = true →
    (mcastForwPush f frame vid isRoutable count).2.dests =
        (f.served vid (f.found frame vid isRoutable)).reverse ∧
      McastEncapsulated frame.skb.data
        ((mcastForwPush f frame vid isRoutable count).2.dests.map f.orig)
        (mcastForwPush f frame vid isRoutable count).2.skb.data
  restored : (mcastForwPush f frame vid isRoutable count).1 = false →
    (mcastForwPush f frame vid isRoutable count).2.skb.data = frame.skb.data

/-! ### What is pushed -/

/-- What was pushed so far stands in front of the payload, took its room, and is `tvlv_len`
long. -/
structure McastPushed (payload : List U8) (room : ℕ) (p : McastPush) (bytes : List U8) : Prop where
  data_eq : p.skb.data = bytes ++ payload
  headroom : p.skb.headroom + bytes.length = room
  tvlvLen : p.tvlvLen.toNat = bytes.length

/-- After a step that succeeds `post` holds; after one that fails the payload can be restored. -/
def McastPushSafe (payload : List U8) (post : McastPush → Prop) (r : Bool × McastPush) : Prop :=
  if r.1 = true then post r.2 else r.2.skb.data.drop r.2.tvlvLen.toNat = payload

section Push

variable {payload bytes : List U8} {room : ℕ} {p : McastPush} {post post' : McastPush → Prop}

lemma McastPushed.restore (h : McastPushed payload room p bytes) :
    p.skb.data.drop p.tvlvLen.toNat = payload := by
  rw [h.data_eq, h.tvlvLen, List.drop_left]

lemma McastPushSafe.of_true (h : post p) : McastPushSafe payload post (true, p) := h

lemma McastPushSafe.of_false (h : McastPushed payload room p bytes) :
    McastPushSafe payload post (false, p) := h.restore

/-- **Steps one after the other.** -/
theorem McastPushSafe.andThen {r : Bool × McastPush} {next : McastPush → Bool × McastPush}
    (h : McastPushSafe payload post r)
    (hnext : ∀ p, post p → McastPushSafe payload post' (next p)) :
    McastPushSafe payload post' (McastPush.andThen r next) := by
  obtain ⟨ok, p⟩ := r
  cases ok with
  | false => exact h
  | true => exact hnext p h

lemma McastPushSafe.imp {r : Bool × McastPush} (h : McastPushSafe payload post r)
    (himp : ∀ p, post p → post' p) : McastPushSafe payload post' r := by
  obtain ⟨ok, p⟩ := r
  cases ok with
  | false => exact h
  | true => exact himp p h

/-- Pushing some bytes for which there is room. -/
lemma McastPushed.push (h : McastPushed payload room p bytes) (new : List U8)
    (hroom : new.length ≤ p.skb.headroom) (hfits : new.length + bytes.length < 2 ^ 16) :
    McastPushed payload room (mcastForwSkbPush p new) (new ++ bytes) := by
  have hlen := h.tvlvLen
  refine ⟨?_, ?_, ?_⟩
  · simp [mcastForwSkbPush, McastTxSkb.push, h.data_eq]
  · have := h.headroom
    simp only [mcastForwSkbPush, McastTxSkb.push, List.length_append]
    omega
  · simp only [mcastForwSkbPush, List.length_append]
    rw [BitVec.toNat_add, BitVec.toNat_ofNat]
    omega

/-! ### The steps -/

/-- The bytes of the destinations that were pushed. -/
def destBytes (f : McastForwarder) (dests : List OrigPtr) : List U8 :=
  (dests.map f.orig).flatMap EthAddr.bytes

lemma length_destBytes (f : McastForwarder) (dests : List OrigPtr) :
    (destBytes f dests).length = 6 * dests.length := by
  rw [destBytes, length_flatMap_bytes, List.length_map]

/-- The padding by the estimated number. -/
def estPadding (count : ℤ) : List U8 := if count.tmod 2 = 0 then [0, 0] else []

lemma length_estPadding_le (count : ℤ) : (estPadding count).length ≤ 2 := by
  unfold estPadding
  split_ifs <;> simp

/-- The estimated padding. -/
lemma safe_mcastForwPushEstPadding (h : McastPushed payload room p []) (count : ℤ) :
    McastPushSafe payload
      (fun p' => McastPushed payload room p' (estPadding count) ∧ p'.dests = p.dests)
      (mcastForwPushEstPadding count p) := by
  unfold mcastForwPushEstPadding estPadding mcastForwPushPadding
  split_ifs with hcount hroom
  · exact .of_false h
  · have htwo : [(0 : U8), 0].length ≤ p.skb.headroom := not_lt.mp hroom
    exact .of_true ⟨h.push [0, 0] htwo (by simp), rfl⟩
  · exact .of_true ⟨h, rfl⟩

variable {f : McastForwarder} {vid : U16}

/-- One destination. -/
lemma safe_mcastForwPushDest {tail : List U8} (origNode : OrigPtr)
    (h : McastPushed payload room p (destBytes f p.dests ++ tail))
    (hfits : room < 2 ^ 16 ∨
      p.dests.length + (f.served vid [origNode]).length < 10923) (htail : tail.length ≤ 2) :
    McastPushSafe payload
      (fun p' => McastPushed payload room p' (destBytes f p'.dests ++ tail) ∧
        p'.dests = f.served vid [origNode] ++ p.dests)
      (mcastForwPushDest f vid origNode p) := by
  unfold mcastForwPushDest
  unfold McastForwarder.served at hfits ⊢
  cases hgw : f.isBackboneGwOrig (f.orig origNode) vid with
  | true => exact .of_true ⟨h, by simp [hgw]⟩
  | false =>
    rw [if_neg Bool.false_ne_true]
    split_ifs with hroom
    · exact .of_false h
    · have hsix : (f.orig origNode).bytes.length = 6 := rfl
      have hlen := length_destBytes f p.dests
      have hhead := h.headroom
      rw [List.length_append, hlen] at hhead
      simp only [Bool.or_eq_true, decide_eq_true_eq, beq_iff_eq, not_or, not_lt] at hroom
      simp only [hgw, Bool.not_false, List.filter_cons_of_pos, List.filter_nil,
        List.length_singleton] at hfits
      have hpush := h.push (f.orig origNode).bytes (by omega)
        (by rw [List.length_append, hlen, hsix]; omega)
      refine .of_true ⟨?_, by simp [hgw]⟩
      have hbytes : destBytes f (origNode :: p.dests) ++ tail =
          (f.orig origNode).bytes ++ (destBytes f p.dests ++ tail) := by
        simp [destBytes]
      change McastPushed payload room _ (destBytes f (origNode :: p.dests) ++ tail)
      rw [hbytes]
      exact ⟨hpush.data_eq, hpush.headroom, hpush.tvlvLen⟩

/-- **A list of destinations.** -/
lemma safe_mcastForwPushDestsList {tail : List U8} {origs : List OrigPtr}
    (h : McastPushed payload room p (destBytes f p.dests ++ tail))
    (hfits : room < 2 ^ 16 ∨ p.dests.length + (f.served vid origs).length < 10923)
    (htail : tail.length ≤ 2) :
    McastPushSafe payload
      (fun p' => McastPushed payload room p' (destBytes f p'.dests ++ tail) ∧
        p'.dests = (f.served vid origs).reverse ++ p.dests)
      (mcastForwPushDestsList f vid origs p) := by
  induction origs generalizing p with
  | nil => exact .of_true ⟨h, rfl⟩
  | cons origNode origs ih =>
    have hserved : f.served vid (origNode :: origs) =
        f.served vid [origNode] ++ f.served vid origs := by
      unfold McastForwarder.served
      rw [← List.filter_append, List.singleton_append]
    rw [hserved, List.length_append] at hfits
    have hfitsOne : room < 2 ^ 16 ∨ p.dests.length + (f.served vid [origNode]).length < 10923 := by
      omega
    refine McastPushSafe.andThen (safe_mcastForwPushDest origNode h hfitsOne htail)
      fun p' hp' => ?_
    obtain ⟨hpushed, hdests⟩ := hp'
    refine (ih hpushed ?_).imp fun p'' hp'' => ⟨hp''.1, ?_⟩
    · rw [hdests, List.length_append]
      omega
    · -- one destination at most is its own reverse
      have hrev : (f.served vid [origNode]).reverse = f.served vid [origNode] := by
        unfold McastForwarder.served
        rw [List.filter_cons]
        split_ifs <;> rfl
      rw [hp''.2, hdests, hserved, List.reverse_append, hrev, List.append_assoc]

/-- Removing the padding behind the destinations. -/
lemma McastPushed.scrape (h : McastPushed payload room p (destBytes f p.dests ++ [0, 0])) :
    McastPushed payload room (mcastForwPushScrapePadding p) (destBytes f p.dests) := by
  have hlen : p.tvlvLen.toNat = (destBytes f p.dests).length + 2 := h.tvlvLen.trans (by simp)
  have hsub : (p.tvlvLen - 2).toNat = (destBytes f p.dests).length := by bv_omega
  have hdata : p.skb.data = destBytes f p.dests ++ ([0, 0] ++ payload) := by
    rw [h.data_eq, List.append_assoc]
  refine ⟨?_, ?_, hsub⟩
  · simp only [mcastForwPushScrapePadding, mcastForwScrape, hsub, hdata, List.take_left]
    rw [List.drop_append, List.drop_of_length_le (by omega), Nat.add_sub_cancel_left]
    rfl
  · have hroom := h.headroom
    rw [List.length_append] at hroom
    simp only [mcastForwPushScrapePadding]
    simp only [List.length_cons, List.length_nil] at hroom
    omega

/-- Inserting a padding behind the destinations. -/
lemma safe_mcastForwPushInsertPadding (h : McastPushed payload room p (destBytes f p.dests))
    (hfits : room < 2 ^ 16 ∨ p.dests.length < 10923) :
    McastPushSafe payload
      (fun p' => McastPushed payload room p' (destBytes f p'.dests ++ [0, 0]) ∧
        p'.dests = p.dests)
      (mcastForwPushInsertPadding p) := by
  have hlen := length_destBytes f p.dests
  have hhead := h.headroom
  unfold mcastForwPushInsertPadding mcastForwPushPadding
  by_cases hroom : p.skb.headroom < 2
  · simp only [if_pos hroom, Bool.not_false, if_true]
    exact .of_false h
  · have htwo : [(0 : U8), 0].length ≤ p.skb.headroom := not_lt.mp hroom
    have hpush := h.push [0, 0] htwo
      (by simp only [List.length_cons, List.length_nil]; omega)
    have hnew : (mcastForwSkbPush p [0, 0]).tvlvLen.toNat = (destBytes f p.dests).length + 2 := by
      rw [hpush.tvlvLen, List.length_append, Nat.add_comm]
      rfl
    have htvlv : (mcastForwSkbPush p [0, 0]).tvlvLen.toNat - p.tvlvLen.toNat = 2 := by
      rw [hnew, h.tvlvLen]
      omega
    simp only [if_neg hroom, Bool.not_true, Bool.false_eq_true, if_false, htvlv]
    refine .of_true ⟨⟨?_, ?_, ?_⟩, rfl⟩
    · change p.skb.data.take p.tvlvLen.toNat ++ [0, 0] ++ p.skb.data.drop p.tvlvLen.toNat = _
      rw [h.data_eq, h.tvlvLen, List.take_left, List.drop_left]
      rfl
    · change p.skb.headroom - 2 + (destBytes f p.dests ++ [0, 0]).length = room
      rw [List.length_append]
      simp only [List.length_cons, List.length_nil]
      omega
    · change (mcastForwSkbPush p [0, 0]).tvlvLen.toNat = (destBytes f p.dests ++ [0, 0]).length
      rw [hnew, List.length_append]
      rfl

/-- **Adjusting the padding** to the number of destinations. -/
lemma safe_mcastForwPushAdjustPadding {count : ℤ}
    (h : McastPushed payload room p (destBytes f p.dests ++ estPadding count))
    (hfits : room < 2 ^ 16 ∨ p.dests.length < 10923) :
    McastPushSafe payload
      (fun p' => McastPushed payload room p'
          (destBytes f p'.dests ++ mcastPadding p'.dests.length) ∧ p'.dests = p.dests)
      (mcastForwPushAdjustPadding count p) := by
  have htmod : (p.dests.length : ℤ).tmod 2 = (p.dests.length % 2 : ℕ) := by
    rw [Int.tmod_eq_emod_of_nonneg (Int.natCast_nonneg _)]
    rfl
  unfold mcastForwPushAdjustPadding
  rw [htmod]
  by_cases hcount : count.tmod 2 = 0
  · rw [estPadding, if_pos hcount] at h
    by_cases hnum : p.dests.length % 2 = 0
    · rw [if_pos (by omega)]
      exact .of_true ⟨by rwa [mcastPadding, if_pos hnum], rfl⟩
    · rw [if_neg (by omega), if_pos ⟨hcount, hnum⟩]
      refine .of_true ⟨?_, rfl⟩
      change McastPushed payload room _ (destBytes f p.dests ++ mcastPadding p.dests.length)
      rw [mcastPadding, if_neg hnum, List.append_nil]
      exact h.scrape
  · rw [estPadding, if_neg hcount, List.append_nil] at h
    by_cases hnum : p.dests.length % 2 = 0
    · rw [if_neg (by omega), if_neg fun hc => hcount hc.1, if_pos ⟨hcount, hnum⟩]
      refine (safe_mcastForwPushInsertPadding h hfits).imp fun p' hp' => ⟨?_, hp'.2⟩
      rw [mcastPadding, hp'.2, if_pos hnum, ← hp'.2]
      exact hp'.1
    · -- both odd, whatever the sign of the estimate
      have hsame : (if ((p.dests.length % 2 : ℕ) : ℤ) = count.tmod 2 then (true, p)
          else if count.tmod 2 = 0 ∧ p.dests.length % 2 ≠ 0 then
            (true, mcastForwPushScrapePadding p)
          else if count.tmod 2 ≠ 0 ∧ p.dests.length % 2 = 0 then mcastForwPushInsertPadding p
          else (true, p)) = (true, p) := by
        simp [hcount, hnum]
      rw [hsame]
      exact .of_true ⟨by rwa [mcastPadding, if_neg hnum, List.append_nil], rfl⟩

/-- **The tracker header.** -/
lemma safe_mcastForwPushTracker
    (h : McastPushed payload room p (destBytes f p.dests ++ mcastPadding p.dests.length)) :
    McastPushSafe payload
      (fun p' => McastPushed payload room p'
          (([TVLV_MCAST_TRACKER, 1] ++
              beBytes (BitVec.ofNat 16 (mcastTrackerLen p'.dests.length))) ++
            (beBytes (BitVec.ofNat 16 p'.dests.length) ++
              (destBytes f p'.dests ++ mcastPadding p'.dests.length))) ∧
        4 + mcastTrackerLen p'.dests.length < 2 ^ 16 ∧ p'.dests = p.dests)
      (mcastForwPushTracker p) := by
  have hlen : 2 + p.tvlvLen.toNat = mcastTrackerLen p.dests.length := by
    rw [h.tvlvLen, List.length_append, length_destBytes, mcastTrackerLen, Nat.add_assoc]
  have htvlv := h.tvlvLen
  simp only [mcastForwPushTracker, hlen]
  split_ifs with hroom hfits
  · exact .of_false h
  · exact .of_false h
  · have hnum := h.push (beBytes (BitVec.ofNat 16 p.dests.length))
      (by simp only [beBytes, List.length_cons, List.length_nil]; omega)
      (by simp only [beBytes, List.length_cons, List.length_nil]; omega)
    have hhdr := hnum.push
      ([TVLV_MCAST_TRACKER, 1] ++ beBytes (BitVec.ofNat 16 (mcastTrackerLen p.dests.length)))
      (by
        simp only [beBytes, mcastForwSkbPush, McastTxSkb.push, List.length_append,
          List.length_cons, List.length_nil]
        omega)
      (by
        simp only [beBytes, List.length_append, List.length_cons, List.length_nil] at htvlv ⊢
        omega)
    have hlt : 4 + mcastTrackerLen p.dests.length < 2 ^ 16 := by omega
    exact .of_true ⟨hhdr, hlt, rfl⟩

/-- **The destinations**, with their padding. -/
lemma safe_mcastForwPushDests {frame : McastFrame} {isRoutable : U16} (count : ℤ)
    (h : McastPushed payload room p []) (hdests : p.dests = [])
    (hfits : room < 2 ^ 16 ∨ (f.served vid (f.found frame vid isRoutable)).length < 10923) :
    McastPushSafe payload
      (fun p' => McastPushed payload room p'
          (destBytes f p'.dests ++ mcastPadding p'.dests.length) ∧
        p'.dests = (f.served vid (f.found frame vid isRoutable)).reverse)
      (mcastForwPushDests f frame vid isRoutable count p) := by
  have hest := safe_mcastForwPushEstPadding h count
  cases hdaddr : frame.daddr with
  | some g =>
    rw [mcastForwPushDests_eq_found hdaddr]
    refine McastPushSafe.andThen hest fun p' hp' => ?_
    obtain ⟨hpad, hp'⟩ := hp'
    rw [hdests] at hp'
    have hstart : McastPushed payload room p' (destBytes f p'.dests ++ estPadding count) := by
      rwa [hp']
    refine McastPushSafe.andThen (safe_mcastForwPushDestsList hstart ?_
      (length_estPadding_le count)) fun p'' hp'' => ?_
    · rw [hp', List.length_nil, Nat.zero_add]
      exact hfits
    · obtain ⟨hpushed, hp''⟩ := hp''
      rw [hp', List.append_nil] at hp''
      refine (safe_mcastForwPushAdjustPadding hpushed ?_).imp fun q hq => ⟨hq.1, ?_⟩
      · rw [hp'', List.length_reverse]
        exact hfits
      · rw [hq.2, hp'']
  | none =>
    -- without an IP header, pushing fails after the translation table
    have hfound : f.found frame vid isRoutable = f.ttOrigs frame.hDest vid := by
      rw [McastForwarder.found, hdaddr, Option.elim_none, List.append_nil]
    have hall : mcastForwPushWantAll f frame vid = fun p => (false, p) := by
      funext p
      rw [mcastForwPushWantAll, hdaddr]
    simp only [mcastForwPushDests, mcastForwPushTt_eq, hall, McastPush.andThen_assoc]
    refine McastPushSafe.andThen hest fun p' hp' => ?_
    obtain ⟨hpad, hp'⟩ := hp'
    rw [hdests] at hp'
    have hstart : McastPushed payload room p' (destBytes f p'.dests ++ estPadding count) := by
      rwa [hp']
    refine McastPushSafe.andThen (safe_mcastForwPushDestsList hstart ?_
      (length_estPadding_le count)) fun p'' hp'' => .of_false hp''.1
    rw [hp', List.length_nil, Nat.zero_add, ← hfound]
    exact hfits

lemma length_mcastHeader (dests : List EthAddr) :
    (mcastHeader dests).length = mcastForwPacketHdrlen dests.length := by
  have hpad : (mcastPadding dests.length).length = if dests.length % 2 = 0 then 2 else 0 := by
    unfold mcastPadding
    split_ifs <;> rfl
  simp only [mcastHeader, mcastForwPacketHdrlen, List.length_append, length_flatMap_bytes, hpad,
    beBytes, List.length_cons, List.length_nil]
  omega

/-- **The packet header.** -/
lemma safe_mcastForwPushHdr
    (h : McastPushed payload room p
      (([TVLV_MCAST_TRACKER, 1] ++ beBytes (BitVec.ofNat 16 (mcastTrackerLen p.dests.length))) ++
        (beBytes (BitVec.ofNat 16 p.dests.length) ++
          (destBytes f p.dests ++ mcastPadding p.dests.length))))
    (hlt : 4 + mcastTrackerLen p.dests.length < 2 ^ 16) :
    McastPushSafe payload
      (fun p' => p'.dests = p.dests ∧
        McastEncapsulated payload (p'.dests.map f.orig) p'.skb.data)
      (mcastForwPushHdr p) := by
  unfold mcastForwPushHdr
  split_ifs
  · exact .of_false h
  · have hlen : p.tvlvLen = BitVec.ofNat 16 (4 + mcastTrackerLen p.dests.length) := by
      refine BitVec.eq_of_toNat_eq ?_
      rw [h.tvlvLen, BitVec.toNat_ofNat, Nat.mod_eq_of_lt hlt]
      simp only [mcastTrackerLen, beBytes, List.length_append, List.length_cons,
        List.length_nil, length_destBytes]
      omega
    refine .of_true ⟨rfl, ?_, length_mcastHeader _, ?_⟩
    · simp only [McastTxSkb.push, h.data_eq, hlen, mcastHeader, destBytes,
        List.length_map, List.append_assoc]
    · rw [List.length_map]
      exact hlt

/-- When pushing goes wrong, `tvlv_len` bytes are pulled again. -/
lemma mcastForwPush_of_expandHead {frame : McastFrame} {isRoutable : U16} {count : ℤ}
    {skb : McastTxSkb} (hskb : mcastForwExpandHead f frame.skb = some skb)
    (h : McastPushSafe payload post
      (McastPush.andThen (mcastForwPushTvlvs f frame vid isRoutable count ⟨skb, 0, []⟩)
        mcastForwPushHdr)) :
    ((mcastForwPush f frame vid isRoutable count).1 = true →
        post (mcastForwPush f frame vid isRoutable count).2) ∧
      ((mcastForwPush f frame vid isRoutable count).1 = false →
        (mcastForwPush f frame vid isRoutable count).2.skb.data = payload) := by
  rw [mcastForwPush, hskb]
  dsimp only
  generalize McastPush.andThen (mcastForwPushTvlvs f frame vid isRoutable count ⟨skb, 0, []⟩)
    mcastForwPushHdr = r at h
  obtain ⟨ok, p⟩ := r
  cases ok with
  | true => exact ⟨fun _ => h, fun hfalse => absurd hfalse.symm Bool.false_ne_true⟩
  | false => exact ⟨fun htrue => absurd htrue Bool.false_ne_true, fun _ => h⟩

/-- The headroom that there is after it was expanded. -/
lemma mcastForwExpandHead_eq_some {skb skb' : McastTxSkb}
    (h : mcastForwExpandHead f skb = some skb') :
    skb'.data = skb.data ∧ (skb.headroom < 2 ^ 16 → skb'.headroom < 2 ^ 16) := by
  have hmtu : (VLAN_ETH_HLEN : ℤ) + IPV6_MIN_MTU = 1298 := rfl
  simp only [mcastForwExpandHead, hmtu] at h
  split_ifs at h with hlong hroom halloc
  · obtain rfl := Option.some.inj h
    refine ⟨rfl, fun _ => ?_⟩
    simp only
    omega
  · obtain rfl := Option.some.inj h
    exact ⟨rfl, id⟩

/-- **Encapsulation is exact or leaves the frame alone**, as long as there are less than 64 KiB of
headroom, or fewer recipients than it takes to fill 64 KiB.

**Proof sketch.** After every step that succeeds, what was pushed stands in front of the payload,
and `tvlv_len` is its length; a step that fails leaves it so. -/
theorem mcast_push_exact (f : McastForwarder) (frame : McastFrame) (vid isRoutable : U16)
    (count : ℤ)
    (hfits : frame.skb.headroom < 2 ^ 16 ∨
      (f.served vid (f.found frame vid isRoutable)).length < 10923) :
    McastPushExact f frame vid isRoutable count := by
  cases hskb : mcastForwExpandHead f frame.skb with
  | none =>
    have hpush : mcastForwPush f frame vid isRoutable count = (false, ⟨frame.skb, 0, []⟩) := by
      rw [mcastForwPush, hskb]
    constructor
    · intro hok
      rw [hpush] at hok
      exact absurd hok Bool.false_ne_true
    · intro _
      rw [hpush]
  | some skb =>
    obtain ⟨hdata, hroom⟩ := mcastForwExpandHead_eq_some hskb
    have hstart : McastPushed frame.skb.data skb.headroom ⟨skb, 0, []⟩ [] :=
      ⟨hdata, by simp, rfl⟩
    have hdests := safe_mcastForwPushDests count hstart rfl (hfits.imp_left hroom)
    have htvlvs : McastPushSafe frame.skb.data
        (fun p => p.dests = (f.served vid (f.found frame vid isRoutable)).reverse ∧
          McastEncapsulated frame.skb.data (p.dests.map f.orig) p.skb.data)
        (McastPush.andThen (mcastForwPushTvlvs f frame vid isRoutable count ⟨skb, 0, []⟩)
          mcastForwPushHdr) := by
      rw [mcastForwPushTvlvs, McastPush.andThen_assoc]
      refine McastPushSafe.andThen hdests fun p hp => ?_
      refine McastPushSafe.andThen (safe_mcastForwPushTracker hp.1) fun q hq => ?_
      obtain ⟨hpushed, hlt, hq⟩ := hq
      refine (safe_mcastForwPushHdr hpushed hlt).imp fun p' hp' => ⟨?_, hp'.2⟩
      rw [hp'.1, hq, hp.2]
    -- on failure `tvlv_len` bytes are pulled again
    obtain ⟨hok, hfail⟩ := mcastForwPush_of_expandHead hskb htvlvs
    exact ⟨hok, hfail⟩

end Push

/-- A node that knows some originators as recipients of every frame. -/
def crowdForwarder (origs : List OrigPtr) : McastForwarder where
  mcast := .init
  mlaFlags := ⟨⟨false, false⟩, ⟨false, false⟩, true, false, 0⟩
  multicastMode := true
  multicastFanout := 16
  orig _ := 2
  ttGlobalHashFind _ _ := some origs
  isBackboneGwOrig _ _ := false
  pskbMayPull := true
  pskbExpandHead := true
  skbCopy _ := true

/-- A UDP datagram to a group, with one byte of payload. -/
def crowdBytes : List U8 :=
  EthAddr.bytes 0x01005e010203 ++ EthAddr.bytes 0x020000000007 ++ [0x08, 0x00] ++
    [0x45, 0, 0, 29, 0, 0, 0, 0, 1, 17, 0, 0, 10, 0, 0, 7, 0xe0, 1, 2, 3] ++
    [0x13, 0x88, 0x13, 0x88, 0, 9, 0, 0, 0xAA]

/-- The frame that carries it. -/
def crowdFrame (headroom : ℕ) : McastFrame :=
  ⟨0x01005e010203, some (.ip4 0xe0010203), false, ⟨headroom, crowdBytes⟩⟩

/-- Two recipients, where three were estimated. -/
theorem mcast_push_exact_two : McastPushExact (crowdForwarder [1, 2]) (crowdFrame 128) 0 0 3 :=
  mcast_push_exact (crowdForwarder [1, 2]) (crowdFrame 128) 0 0 3 (Or.inl (by decide))

/-- Pushing as many as there is room for. -/
lemma mcastForwPushDestsList_crowd (all origs : List OrigPtr) (p : McastPush)
    (hroom : 6 * origs.length ≤ p.skb.headroom)
    (hnum : p.dests.length + origs.length ≤ 0xFFFF) :
    let r := mcastForwPushDestsList (crowdForwarder all) 0 origs p
    r.1 = true ∧ r.2.skb.headroom = p.skb.headroom - 6 * origs.length ∧
      r.2.tvlvLen = p.tvlvLen + BitVec.ofNat 16 (6 * origs.length) := by
  induction origs generalizing p with
  | nil => simp [mcastForwPushDestsList]
  | cons origNode origs ih =>
    rw [List.length_cons] at hroom hnum
    have hone : mcastForwPushDest (crowdForwarder all) 0 origNode p =
        (true, { mcastForwSkbPush p (EthAddr.bytes 2) with dests := origNode :: p.dests }) := by
      have hgw : (crowdForwarder all).isBackboneGwOrig ((crowdForwarder all).orig origNode) 0 =
          false := rfl
      unfold mcastForwPushDest
      rw [hgw, if_neg Bool.false_ne_true, if_neg]
      · rfl
      · simp only [Bool.or_eq_true, decide_eq_true_eq, beq_iff_eq, not_or]
        omega
    obtain ⟨hok, hhead, htvlv⟩ := ih
      { mcastForwSkbPush p (EthAddr.bytes 2) with dests := origNode :: p.dests }
      (by
        change _ ≤ p.skb.headroom - 6
        omega)
      (by
        change p.dests.length + 1 + _ ≤ _
        omega)
    rw [mcastForwPushDestsList, hone]
    refine ⟨hok, hhead.trans ?_, htvlv.trans ?_⟩
    · change p.skb.headroom - 6 - _ = _
      rw [List.length_cons]
      omega
    · change p.tvlvLen + BitVec.ofNat 16 6 + _ = _
      rw [List.length_cons, Nat.mul_succ, Nat.add_comm, BitVec.ofNat_add, BitVec.add_assoc]

/-- An odd number of recipients that fills 64 KiB and a little more: it is encapsulated, with wrong
lengths. -/
lemma not_exact_crowd {origs : List OrigPtr} (hmany : 10923 ≤ origs.length)
    (hmax : origs.length ≤ 65535) (hodd : origs.length % 2 = 1)
    (hwrap : 6 * origs.length % 65536 + 6 ≤ 65535) :
    ¬ McastPushExact (crowdForwarder origs) (crowdFrame (6 * origs.length + 12)) 0 0 1 := by
  have hfound : (crowdForwarder origs).found (crowdFrame (6 * origs.length + 12)) 0 0 = origs :=
    List.append_nil origs
  have hserved : (crowdForwarder origs).served 0 origs = origs := List.filter_true origs
  have hhead : mcastForwExpandHead (crowdForwarder origs)
      (crowdFrame (6 * origs.length + 12)).skb = some ⟨6 * origs.length + 12, crowdBytes⟩ := by
    have hmtu : (VLAN_ETH_HLEN : ℤ) + IPV6_MIN_MTU - crowdBytes.length = 1255 := rfl
    simp only [mcastForwExpandHead, crowdFrame, hmtu]
    rw [if_neg (by decide), if_neg (by omega)]
  -- the destinations are pushed, and `tvlv_len` wraps
  obtain ⟨hok, hroom, htvlv⟩ := mcastForwPushDestsList_crowd origs origs
    ⟨⟨6 * origs.length + 12, crowdBytes⟩, 0, []⟩ (by simp only; omega) (by simpa using hmax)
  have hdests := mcastForwPushDestsList_dests hok
  generalize hr : mcastForwPushDestsList (crowdForwarder origs) 0 origs
    ⟨⟨6 * origs.length + 12, crowdBytes⟩, 0, []⟩ = r at hok hroom htvlv hdests
  obtain ⟨ok, p⟩ := r
  obtain rfl : ok = true := hok
  simp only [hserved, List.append_nil] at hroom htvlv hdests
  have hnum : p.dests.length = origs.length := by rw [hdests, List.length_reverse]
  have htvlv' : p.tvlvLen.toNat = 6 * origs.length % 65536 := by
    rw [htvlv, show (0 : U16) = 0#16 from rfl, BitVec.zero_add, BitVec.toNat_ofNat]
  have hadjust : mcastForwPushAdjustPadding 1 p = (true, p) := by
    have hsame : (p.dests.length : ℤ).tmod 2 = (1 : ℤ).tmod 2 := by
      rw [Int.tmod_eq_emod_of_nonneg (Int.natCast_nonneg _), hnum]
      exact congrArg Nat.cast hodd
    rw [mcastForwPushAdjustPadding, if_pos hsame]
  have hpush : McastPush.andThen (mcastForwPushTvlvs (crowdForwarder origs)
      (crowdFrame (6 * origs.length + 12)) 0 0 1 ⟨⟨6 * origs.length + 12, crowdBytes⟩, 0, []⟩)
      mcastForwPushHdr = mcastForwPushHdr (mcastForwPushTracker p).2 := by
    have htracker : (mcastForwPushTracker p).1 = true := by
      unfold mcastForwPushTracker
      rw [if_neg (by omega), if_neg (by omega)]
    have hest : mcastForwPushEstPadding 1 ⟨⟨6 * origs.length + 12, crowdBytes⟩, 0, []⟩ =
        (true, ⟨⟨6 * origs.length + 12, crowdBytes⟩, 0, []⟩) := if_neg (by decide)
    rw [mcastForwPushTvlvs, mcastForwPushDests_eq_found rfl, hfound, hest]
    change McastPush.andThen (McastPush.andThen (McastPush.andThen
      (mcastForwPushDestsList (crowdForwarder origs) 0 origs
        ⟨⟨6 * origs.length + 12, crowdBytes⟩, 0, []⟩)
      (mcastForwPushAdjustPadding 1)) mcastForwPushTracker) mcastForwPushHdr = _
    rw [hr]
    change McastPush.andThen (McastPush.andThen (mcastForwPushAdjustPadding 1 p)
      mcastForwPushTracker) mcastForwPushHdr = _
    rw [hadjust]
    exact if_pos htracker
  -- there is room for the headers, too
  have htracked : (mcastForwPushTracker p).2.skb.headroom = 6 ∧
      (mcastForwPushTracker p).2.dests = p.dests := by
    unfold mcastForwPushTracker
    rw [if_neg (by omega), if_neg (by omega)]
    refine ⟨?_, rfl⟩
    change p.skb.headroom - 2 - 4 = 6
    omega
  have hhdr : mcastForwPushHdr (mcastForwPushTracker p).2 =
      (true, (mcastForwPushHdr (mcastForwPushTracker p).2).2) := by
    unfold mcastForwPushHdr
    rw [if_neg (by omega)]
  have hlisted : (mcastForwPushHdr (mcastForwPushTracker p).2).2.dests.length = origs.length := by
    rw [keepsDests_mcastForwPushHdr, htracked.2, hnum]
  have hresult : mcastForwPush (crowdForwarder origs) (crowdFrame (6 * origs.length + 12)) 0 0 1 =
      (true, (mcastForwPushHdr (mcastForwPushTracker p).2).2) := by
    rw [mcastForwPush, hhead]
    dsimp only
    rw [hpush, hhdr, if_pos rfl]
  intro h
  have hexact := h.encapsulated
  rw [hresult] at hexact
  have hfits := (hexact rfl).2.fits
  rw [List.length_map, hlisted, mcastTrackerLen] at hfits
  omega

/-- **With 64 KiB of headroom and 10923 recipients** encapsulation is not exact. -/
theorem mcast_push_not_exact :
    ¬ ∀ (f : McastForwarder) (frame : McastFrame) (vid isRoutable : U16) (count : ℤ),
      McastPushExact f frame vid isRoutable count := by
  intro h
  have hlist (n : ℕ) : ∃ origs : List OrigPtr, origs.length = n :=
    ⟨List.replicate n 1, List.length_replicate⟩
  obtain ⟨origs, hlen⟩ := hlist 10923
  exact not_exact_crowd (by omega) (by omega) (by omega) (by omega)
    (h (crowdForwarder origs) (crowdFrame (6 * origs.length + 12)) 0 0 1)

end Batadv
