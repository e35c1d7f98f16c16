import BatmanAdv.Multicast.Announce
import BatmanAdv.Multicast.Forward

set_option relaxedAutoImplicit false
set_option autoImplicit false

/-!
# Encapsulating multicast frames (`multicast_forw.c`)

The headers of a multicast packet are pushed onto a frame from back to front: the padding behind the
destinations, by an estimate of their number, the destinations, and the headers in front of them.
The destinations are taken from the translation table and from the lists of the originators that
want all packets of a kind.  If their number is not as even or odd as estimated, the padding is
inserted or removed.  When something fails, what was pushed of the TVLVs is pulled again.

## Main definitions

* `Batadv.McastTxSkb`, `Batadv.McastFrame` — a socket buffer, and a multicast frame.
* `Batadv.McastForwarder` — what is read when a frame is sent.
* `Batadv.McastPush` — a frame while headers are pushed.
* `Batadv.mcastForwPushDest`, `Batadv.mcastForwPushDests`, `Batadv.mcastForwPushTracker`,
  `Batadv.mcastForwPush` and others — the functions of these names.

## Main results

* `Batadv.mcastForwPushDests_dests` — which originators are pushed.
* `Batadv.mcastForwPush_dests` — which originators are listed in the packet.
-/

namespace Batadv

/-! ### Frames -/

/-- A socket buffer: the bytes from `skb->data` on, and the room in front of them. -/
structure McastTxSkb where
  headroom : ℕ
  data : List U8
deriving DecidableEq, Repr

/-- `skb_push`, and writing the bytes. -/
def McastTxSkb.push (skb : McastTxSkb) (bytes : List U8) : McastTxSkb :=
  ⟨skb.headroom - bytes.length, bytes ++ skb.data⟩

/-- `skb_pull`. -/
def McastTxSkb.pull (skb : McastTxSkb) (len : ℕ) : McastTxSkb :=
  ⟨skb.headroom + len, skb.data.drop len⟩

/-- A frame with a multicast destination: its IP destination, where the protocol is IPv4 or IPv6,
and whether it is a valid IGMP or MLD report. -/
structure McastFrame where
  hDest : EthAddr
  daddr : Option McastGroup
  isReport : Bool
  skb : McastTxSkb
deriving DecidableEq, Repr

/-- What is read when a frame is sent: the lists of the originators that want all packets of a kind,
the own flags, the settings, the addresses of the originators, those that announce a client, which
of them are backbone gateways of a VLAN, and which allocations succeed: for pulling the IP header,
for expanding the headroom, and for a copy after so many others. -/
structure McastForwarder where
  mcast : McastPriv
  mlaFlags : McastMlaFlags
  multicastMode : Bool
  multicastFanout : ℤ
  orig : OrigPtr → EthAddr
  ttGlobalHashFind : EthAddr → U16 → Option (List OrigPtr)
  isBackboneGwOrig : EthAddr → U16 → Bool
  pskbMayPull : Bool
  pskbExpandHead : Bool
  skbCopy : ℕ → Bool

/-! ### Pushing the destinations -/

/-- A frame while headers are pushed: how many bytes of TVLVs there are, and the originators that
were pushed, which are `num_dests` many. -/
structure McastPush where
  skb : McastTxSkb
  tvlvLen : U16
  dests : List OrigPtr
deriving DecidableEq, Repr

/-- Go on if there was no failure. -/
def McastPush.andThen (r : Bool × McastPush) (next : McastPush → Bool × McastPush) :
    Bool × McastPush :=
  if r.1 then next r.2 else r

/-- `batadv_mcast_forw_skb_push`. -/
def mcastForwSkbPush (p : McastPush) (bytes : List U8) : McastPush :=
  { p with skb := p.skb.push bytes, tvlvLen := p.tvlvLen + BitVec.ofNat 16 bytes.length }

/-- `batadv_mcast_forw_push_padding`. -/
def mcastForwPushPadding (p : McastPush) : Bool × McastPush :=
  if p.skb.headroom < 2 then (false, p) else (true, mcastForwSkbPush p [0, 0])

/-- `batadv_mcast_forw_push_est_padding`. -/
def mcastForwPushEstPadding (count : ℤ) (p : McastPush) : Bool × McastPush :=
  if count.tmod 2 = 0 then mcastForwPushPadding p else (true, p)

/-- `batadv_mcast_forw_push_dest`. -/
def mcastForwPushDest (f : McastForwarder) (vid : U16) (origNode : OrigPtr) (p : McastPush) :
    Bool × McastPush :=
  if f.isBackboneGwOrig (f.orig origNode) vid then (true, p)
  else if p.skb.headroom < 6 || p.dests.length == 0xFFFF then (false, p)
  else
    let p := mcastForwSkbPush p (f.orig origNode).bytes
    (true, { p with dests := origNode :: p.dests })

/-- `batadv_mcast_forw_push_dests_list`, and the loop of `batadv_mcast_forw_push_tt`. -/
def mcastForwPushDestsList (f : McastForwarder) (vid : U16) :
    List OrigPtr → McastPush → Bool × McastPush
  | [], p => (true, p)
  | origNode :: origs, p =>
    McastPush.andThen (mcastForwPushDest f vid origNode p) (mcastForwPushDestsList f vid origs)

/-- `batadv_mcast_forw_push_tt`. -/
def mcastForwPushTt (f : McastForwarder) (frame : McastFrame) (vid : U16) (p : McastPush) :
    Bool × McastPush :=
  match f.ttGlobalHashFind frame.hDest vid with
  | none => (true, p)
  | some origs => mcastForwPushDestsList f vid origs p

/-- `batadv_mcast_forw_push_want_all`. -/
def mcastForwPushWantAll (f : McastForwarder) (frame : McastFrame) (vid : U16) (p : McastPush) :
    Bool × McastPush :=
  match frame.daddr with
  | some (.ip4 _) => mcastForwPushDestsList f vid f.mcast.wantAllIpv4.list p
  | some (.ip6 _) => mcastForwPushDestsList f vid f.mcast.wantAllIpv6.list p
  | none => (false, p)

/-- `batadv_mcast_forw_push_want_rtr`. -/
def mcastForwPushWantRtr (f : McastForwarder) (frame : McastFrame) (vid : U16) (p : McastPush) :
    Bool × McastPush :=
  match frame.daddr with
  | some (.ip4 _) => mcastForwPushDestsList f vid f.mcast.wantAllRtr4.list p
  | some (.ip6 _) => mcastForwPushDestsList f vid f.mcast.wantAllRtr6.list p
  | none => (false, p)

/-- `batadv_mcast_forw_push_scrape_padding`. -/
def mcastForwPushScrapePadding (p : McastPush) : McastPush :=
  { p with
    skb := ⟨p.skb.headroom + 2, mcastForwScrape p.skb.data (p.tvlvLen - 2) 2⟩
    tvlvLen := p.tvlvLen - 2 }

/-- `batadv_mcast_forw_push_insert_padding`: the first `offset` bytes are moved to the front. -/
def mcastForwPushInsertPadding (p : McastPush) : Bool × McastPush :=
  let offset := p.tvlvLen.toNat
  let r := mcastForwPushPadding p
  if !r.1 then r
  else
    let data := p.skb.data.take offset ++ List.replicate (r.2.tvlvLen.toNat - offset) 0 ++
      p.skb.data.drop offset
    (true, { r.2 with skb := ⟨r.2.skb.headroom, data⟩ })

/-- `batadv_mcast_forw_push_adjust_padding`; the number of destinations is that of those pushed
then. -/
def mcastForwPushAdjustPadding (count : ℤ) (p : McastPush) : Bool × McastPush :=
  if (p.dests.length : ℤ).tmod 2 = count.tmod 2 then (true, p)
  -- estimated an even number, but it is odd
  else if count.tmod 2 = 0 ∧ p.dests.length % 2 ≠ 0 then (true, mcastForwPushScrapePadding p)
  -- estimated an odd number, but it is even
  else if count.tmod 2 ≠ 0 ∧ p.dests.length % 2 = 0 then mcastForwPushInsertPadding p
  else (true, p)

/-- `batadv_mcast_forw_push_dests`. -/
def mcastForwPushDests (f : McastForwarder) (frame : McastFrame) (vid isRoutable : U16) (count : ℤ)
    (p : McastPush) : Bool × McastPush :=
  let r := mcastForwPushEstPadding count p
  let r := McastPush.andThen r (mcastForwPushTt f frame vid)
  let r := McastPush.andThen r (mcastForwPushWantAll f frame vid)
  let r := McastPush.andThen r fun p =>
    if isRoutable = 0 then (true, p) else mcastForwPushWantRtr f frame vid p
  McastPush.andThen r (mcastForwPushAdjustPadding count)

/-! ### Pushing the headers -/

/-- `BATADV_TVLV_MCAST_TRACKER`. -/
def TVLV_MCAST_TRACKER : U8 := 0x07

/-- `BATADV_MCAST` of `enum batadv_packettype`. -/
def PACKET_MCAST : U8 := 0x05

/-- `batadv_mcast_forw_push_tracker`. -/
def mcastForwPushTracker (p : McastPush) : Bool × McastPush :=
  if p.skb.headroom < 2 + 4 then (false, p)
  else
    let tvlvValueLen := 2 + p.tvlvLen.toNat
    if 0xFFFF < tvlvValueLen + 4 then (false, p)
    else
      let p := mcastForwSkbPush p (beBytes (BitVec.ofNat 16 p.dests.length))
      (true, mcastForwSkbPush p
        ([TVLV_MCAST_TRACKER, 1] ++ beBytes (BitVec.ofNat 16 tvlvValueLen)))

/-- `batadv_mcast_forw_push_tvlvs`. -/
def mcastForwPushTvlvs (f : McastForwarder) (frame : McastFrame) (vid isRoutable : U16) (count : ℤ)
    (p : McastPush) : Bool × McastPush :=
  McastPush.andThen (mcastForwPushDests f frame vid isRoutable count p) mcastForwPushTracker

/-- `batadv_mcast_forw_push_hdr`. -/
def mcastForwPushHdr (p : McastPush) : Bool × McastPush :=
  if p.skb.headroom < 6 then (false, p)
  else
    (true, { p with
      skb := p.skb.push ([PACKET_MCAST, COMPAT_VERSION, TTL, 0] ++ beBytes p.tvlvLen) })

/-- `VLAN_ETH_HLEN`. -/
def VLAN_ETH_HLEN : ℕ := 18

/-- `batadv_mcast_forw_packet_hdrlen`. -/
def mcastForwPacketHdrlen (numDests : ℕ) : ℕ :=
  (if numDests % 2 = 0 then 2 else 0) + numDests * 6 + 2 + 4 + 6

/-- `batadv_mcast_forw_expand_head`; `none` is an error. -/
def mcastForwExpandHead (f : McastForwarder) (skb : McastTxSkb) : Option McastTxSkb :=
  let hdrSize : ℤ := VLAN_ETH_HLEN + IPV6_MIN_MTU - skb.data.length
  if hdrSize < 0 then none
  else if skb.headroom < hdrSize then
    if f.pskbExpandHead then some ⟨skb.headroom + hdrSize.toNat, skb.data⟩ else none
  else some skb

/-- `batadv_mcast_forw_push`: whether the frame was encapsulated, and what it is then. -/
def mcastForwPush (f : McastForwarder) (frame : McastFrame) (vid isRoutable : U16) (count : ℤ) :
    Bool × McastPush :=
  match mcastForwExpandHead f frame.skb with
  | none => (false, ⟨frame.skb, 0, []⟩)
  | some skb =>
    let r := mcastForwPushTvlvs f frame vid isRoutable count ⟨skb, 0, []⟩
    let r := McastPush.andThen r mcastForwPushHdr
    if r.1 then r else (false, { r.2 with skb := r.2.skb.pull r.2.tvlvLen.toNat })

/-! ### The recipients -/

namespace McastForwarder

variable (f : McastForwarder)

/-- Who announces the Ethernet address. -/
def ttOrigs (addr : EthAddr) (vid : U16) : List OrigPtr := (f.ttGlobalHashFind addr vid).getD []

/-- Who wants all packets of the protocol of the group. -/
def wantAllList : McastGroup → List OrigPtr
  | .ip4 _ => f.mcast.wantAllIpv4.list
  | .ip6 _ => f.mcast.wantAllIpv6.list

/-- Who wants all routable packets of the protocol of the group. -/
def wantRtrList : McastGroup → List OrigPtr
  | .ip4 _ => f.mcast.wantAllRtr4.list
  | .ip6 _ => f.mcast.wantAllRtr6.list

/-- **Whom a frame for the group is for**, as often as one of the sources says so. -/
def recipients (g : McastGroup) (vid : U16) : List OrigPtr :=
  f.ttOrigs g.hDest vid ++ f.wantAllList g ++ if g.routable then f.wantRtrList g else []

/-- The recipients but those that have got the frame otherwise. -/
def served (vid : U16) (origs : List OrigPtr) : List OrigPtr :=
  origs.filter fun origNode => !f.isBackboneGwOrig (f.orig origNode) vid

/-- **Whom `batadv_mcast_forw_push_dests` finds**, as often as one of the sources says so. -/
def found (frame : McastFrame) (vid isRoutable : U16) : List OrigPtr :=
  f.ttOrigs frame.hDest vid ++ frame.daddr.elim [] fun g =>
    f.wantAllList g ++ if isRoutable = 0 then [] else f.wantRtrList g

end McastForwarder

/-- A frame for the group that is not a report. -/
structure McastFrame.IsFor (frame : McastFrame) (g : McastGroup) : Prop where
  hDest : frame.hDest = g.hDest
  daddr : frame.daddr = some g
  notReport : frame.isReport = false

/-! ### What is pushed -/

section Push

variable {f : McastForwarder} {frame : McastFrame} {g : McastGroup} {vid : U16}

lemma McastPush.andThen_of_true {r : Bool × McastPush} {next : McastPush → Bool × McastPush}
    (h : (McastPush.andThen r next).1 = true) :
    r.1 = true ∧ McastPush.andThen r next = next r.2 := by
  unfold McastPush.andThen at h ⊢
  split at h
  · rename_i hr
    exact ⟨hr, if_pos hr⟩
  · rename_i hr
    exact absurd h hr

lemma McastPush.andThen_assoc (r : Bool × McastPush) (next next' : McastPush → Bool × McastPush) :
    McastPush.andThen (McastPush.andThen r next) next' =
      McastPush.andThen r fun p => McastPush.andThen (next p) next' := by
  unfold McastPush.andThen
  split <;> simp_all

/-- Pushing two lists, one after the other. -/
lemma mcastForwPushDestsList_append (origs origs' : List OrigPtr) (p : McastPush) :
    mcastForwPushDestsList f vid (origs ++ origs') p =
      McastPush.andThen (mcastForwPushDestsList f vid origs p)
        (mcastForwPushDestsList f vid origs') := by
  induction origs generalizing p with
  | nil => rfl
  | cons origNode origs ih =>
    have ih' : mcastForwPushDestsList f vid (origs ++ origs') = _ := funext ih
    simp only [List.cons_append, mcastForwPushDestsList, McastPush.andThen_assoc, ih']

@[simp] lemma mcastForwSkbPush_dests (p : McastPush) (bytes : List U8) :
    (mcastForwSkbPush p bytes).dests = p.dests := rfl

lemma mcastForwPushDest_dests {origNode : OrigPtr} {p : McastPush}
    (h : (mcastForwPushDest f vid origNode p).1 = true) :
    (mcastForwPushDest f vid origNode p).2.dests = f.served vid [origNode] ++ p.dests := by
  unfold mcastForwPushDest at h ⊢
  cases hgw : f.isBackboneGwOrig (f.orig origNode) vid with
  | true => simp [McastForwarder.served, hgw]
  | false =>
    rw [hgw, if_neg Bool.false_ne_true] at h
    split at h
    · exact absurd h Bool.false_ne_true
    · rename_i hroom
      simp [McastForwarder.served, hgw, hroom]

/-- **Pushing a list** that succeeds. -/
lemma mcastForwPushDestsList_dests {origs : List OrigPtr} {p : McastPush}
    (h : (mcastForwPushDestsList f vid origs p).1 = true) :
    (mcastForwPushDestsList f vid origs p).2.dests = (f.served vid origs).reverse ++ p.dests := by
  induction origs generalizing p with
  | nil => rfl
  | cons origNode origs ih =>
    rw [mcastForwPushDestsList] at h ⊢
    obtain ⟨hdest, heq⟩ := McastPush.andThen_of_true h
    rw [heq] at h ⊢
    rw [ih h, mcastForwPushDest_dests hdest, ← List.append_assoc]
    congr 1
    simp only [McastForwarder.served, List.filter_cons, List.filter_nil]
    split <;> simp

lemma mcastForwPushTt_eq :
    mcastForwPushTt f frame vid = mcastForwPushDestsList f vid (f.ttOrigs frame.hDest vid) := by
  funext p
  rw [mcastForwPushTt, McastForwarder.ttOrigs]
  cases f.ttGlobalHashFind frame.hDest vid <;> rfl

/-- Pushing those that are found, for an IP frame. -/
lemma mcastForwPushDests_eq_found (hdaddr : frame.daddr = some g) (isRoutable : U16) (count : ℤ)
    (p : McastPush) :
    mcastForwPushDests f frame vid isRoutable count p =
      McastPush.andThen (mcastForwPushEstPadding count p) fun p =>
        McastPush.andThen (mcastForwPushDestsList f vid (f.found frame vid isRoutable) p)
          (mcastForwPushAdjustPadding count) := by
  have hall : mcastForwPushWantAll f frame vid =
      mcastForwPushDestsList f vid (f.wantAllList g) := by
    funext p
    rw [mcastForwPushWantAll, hdaddr]
    cases g <;> rfl
  have hrtr : (fun p => if isRoutable = 0 then (true, p) else mcastForwPushWantRtr f frame vid p) =
      mcastForwPushDestsList f vid (if isRoutable = 0 then [] else f.wantRtrList g) := by
    funext p
    rw [mcastForwPushWantRtr, hdaddr]
    split_ifs
    · rfl
    · cases g <;> rfl
  simp only [mcastForwPushDests, mcastForwPushTt_eq, hall, hrtr, McastPush.andThen_assoc,
    McastForwarder.found, hdaddr, Option.elim_some, mcastForwPushDestsList_append]

/-- Pushing the recipients. -/
lemma mcastForwPushDests_eq (hframe : frame.IsFor g) {isRoutable : U16}
    (hroutable : isRoutable = 0 ↔ g.routable = false) (count : ℤ) (p : McastPush) :
    mcastForwPushDests f frame vid isRoutable count p =
      McastPush.andThen (mcastForwPushEstPadding count p) fun p =>
        McastPush.andThen (mcastForwPushDestsList f vid (f.recipients g vid) p)
          (mcastForwPushAdjustPadding count) := by
  have hfound : f.found frame vid isRoutable = f.recipients g vid := by
    rw [McastForwarder.found, hframe.hDest, hframe.daddr, McastForwarder.recipients,
      List.append_assoc]
    cases hg : g.routable with
    | false => simp [hroutable.2 hg]
    | true =>
      have hne : isRoutable ≠ 0 := fun h => Bool.false_ne_true ((hroutable.1 h).symm.trans hg)
      rw [Option.elim_some, if_neg hne, if_pos rfl]
  rw [mcastForwPushDests_eq_found hframe.daddr, hfound]

/-- A step that does not push destinations. -/
def McastPush.KeepsDests (next : McastPush → Bool × McastPush) : Prop :=
  ∀ p, (next p).2.dests = p.dests

lemma keepsDests_mcastForwPushPadding : McastPush.KeepsDests mcastForwPushPadding := by
  intro p
  unfold mcastForwPushPadding
  split <;> rfl

lemma keepsDests_mcastForwPushEstPadding (count : ℤ) :
    McastPush.KeepsDests (mcastForwPushEstPadding count) := by
  intro p
  unfold mcastForwPushEstPadding
  split
  · exact keepsDests_mcastForwPushPadding p
  · rfl

lemma keepsDests_mcastForwPushAdjustPadding (count : ℤ) :
    McastPush.KeepsDests (mcastForwPushAdjustPadding count) := by
  intro p
  have hinsert : (mcastForwPushInsertPadding p).2.dests = p.dests := by
    simp only [mcastForwPushInsertPadding]
    split <;> exact keepsDests_mcastForwPushPadding p
  unfold mcastForwPushAdjustPadding
  split_ifs
  · rfl
  · rfl
  · exact hinsert
  · rfl

lemma keepsDests_mcastForwPushTracker : McastPush.KeepsDests mcastForwPushTracker := by
  intro p
  simp only [mcastForwPushTracker]
  split_ifs <;> rfl

lemma keepsDests_mcastForwPushHdr : McastPush.KeepsDests mcastForwPushHdr := by
  intro p
  unfold mcastForwPushHdr
  split <;> rfl

/-- **Who is listed in a multicast packet**: the recipients, from the last one on. -/
theorem mcastForwPush_dests (hframe : frame.IsFor g) {isRoutable : U16}
    (hroutable : isRoutable = 0 ↔ g.routable = false) {count : ℤ}
    (h : (mcastForwPush f frame vid isRoutable count).1 = true) :
    (mcastForwPush f frame vid isRoutable count).2.dests =
      (f.served vid (f.recipients g vid)).reverse := by
  unfold mcastForwPush at h ⊢
  cases hskb : mcastForwExpandHead f frame.skb with
  | none => rw [hskb] at h; exact absurd h Bool.false_ne_true
  | some skb =>
    simp only [hskb, mcastForwPushTvlvs, mcastForwPushDests_eq hframe hroutable,
      McastPush.andThen_assoc] at h ⊢
    split at h
    · rename_i hpush
      rw [if_pos hpush]
      -- each step succeeds, and only the second one pushes destinations
      obtain ⟨-, hest⟩ := McastPush.andThen_of_true hpush
      rw [hest] at hpush ⊢
      obtain ⟨hlist, heq⟩ := McastPush.andThen_of_true hpush
      rw [heq] at hpush ⊢
      obtain ⟨-, hadjust⟩ := McastPush.andThen_of_true hpush
      rw [hadjust] at hpush ⊢
      obtain ⟨-, htracker⟩ := McastPush.andThen_of_true hpush
      rw [htracker, keepsDests_mcastForwPushHdr, keepsDests_mcastForwPushTracker,
        keepsDests_mcastForwPushAdjustPadding, mcastForwPushDestsList_dests hlist,
        keepsDests_mcastForwPushEstPadding, List.append_nil]
    · exact absurd h Bool.false_ne_true

end Push

end Batadv
