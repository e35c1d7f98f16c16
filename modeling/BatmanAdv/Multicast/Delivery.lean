import BatmanAdv.Multicast.Mode

set_option relaxedAutoImplicit false
set_option autoImplicit false

/-!
# Delivering multicast frames

A node announces which multicast frames it wants, and another one that has heard it sends it the
frames.  A node that wants a frame can be a recipient by the translation table, and by the lists of
the originators that want all packets of the protocol, or all routable ones.  It should be so by one
of them.

## Main definitions

* `Batadv.McastForwarder.Heard` — what was announced has been heard.
* `Batadv.McastDev.Interested`, `Batadv.McastForwarder.Delivers` — who wants a frame, and that it
  gets it, and one copy of it.
* `Batadv.McastDev.Deliverable` — when this is so.

## Main results

* `Batadv.McastForwarder.Heard.mem_recipients` — in which of the three lists a node is.
* `Batadv.mcast_delivery_iff` — frames for a group are delivered if and only if the group is
  deliverable.
-/

namespace Batadv

/-! ### Interest and delivery -/

/-- **The node wants frames for the group**: it has joined it, or has a multicast router and the
group is routable, or has announced a flag for all packets of this kind. -/
def McastDev.Interested (dev : McastDev) (flags : U8) (g : McastGroup) : Prop :=
  g ∈ dev.joined ∨ (dev.hasRouter g = true ∧ g.routable = true) ∨
    mcastHas g.wantAllFlag flags = true ∨
    (g.unsnoopable = true ∧ mcastHas MCAST_WANT_ALL_UNSNOOPABLES flags = true)

namespace McastForwarder

/-- **What an originator announces has been heard**: after its last container there were only
others', the translation table has it for its multicast addresses (which of its other clients it
announces is of no matter), and as one of the originators of an entry once, and it is not a gateway
of the same LAN. -/
structure Heard (f : McastForwarder) (origNode : OrigPtr) (mla : McastMla) : Prop where
  tvlv : ∃ before after,
    f.mcast = Run.final mcastStep .init (before ++ .tvlv origNode 0 mla.tvlvValue :: after) ∧
      ∀ e ∈ after, e.orig ≠ origNode
  live : (f.mcast.origs.get origNode).isSome
  nodup : ∀ addr vid, (f.ttOrigs addr vid).Nodup
  tt : ∀ addr, isMulticastEtherAddr addr = true →
    (origNode ∈ f.ttOrigs addr 0 ↔ addr ∈ mla.mlaList)
  notBackbone : f.isBackboneGwOrig (f.orig origNode) 0 = false

/-- All allocations succeed. -/
structure Allocates (f : McastForwarder) : Prop where
  mayPull : f.pskbMayPull = true
  expandHead : f.pskbExpandHead = true
  copy : ∀ n, f.skbCopy n = true

/-- **A frame is delivered to a node**: where it is interested the frame is broadcasted, or the node
is selected, and of the copies that are sent it gets one if it gets any. -/
structure Delivers (f : McastForwarder) (origNode : OrigPtr) (frame : McastFrame)
    (interested : Prop) : Prop where
  reached : interested →
    (mcastForwMode f frame 0).mode = .bcast ∨ f.Selects frame 0 origNode
  once : (mcastForwMode f frame 0).mode = .ucasts →
    let sent := (mcastForwSend f frame 0 (mcastForwMode f frame 0).isRoutable).2.sent
    origNode ∈ sent → sent.count origNode = 1

end McastForwarder

/-- The address is in the translation table after it should be announced. -/
def mcastAccepted (ttLocalAdd : EthAddr → Bool) (mla : McastMla) (addr : EthAddr) : Prop :=
  addr ∈ mla.mlaList ∨ ttLocalAdd addr = true

/-- **A group is deliverable** if the translation table accepts it where it has to be announced, and
none that is announced has the same address where it is routable and all routable packets, but not
all packets, are wanted. -/
structure McastDev.Deliverable (dev : McastDev) (ttLocalAdd : EthAddr → Bool) (mla : McastMla)
    (g : McastGroup) : Prop where
  accepted : g ∈ dev.joined → g.nodeLocal = false → dev.covers g = false →
    mcastAccepted ttLocalAdd mla g.hDest
  notTwice : g.routable = true → dev.hasRouter g = true → dev.wantsAll g = false →
    ∀ g' ∈ dev.announced, g'.hDest = g.hDest → ¬mcastAccepted ttLocalAdd mla g.hDest

/-! ### What has been heard -/

/-- A step does not change another originator. -/
lemma get_mcastStep_of_ne {s : McastPriv} (h : s.Inv) {e : McastEvent} {orig : OrigPtr}
    (hne : e.orig ≠ orig) : (mcastStep s e).origs.get orig = s.origs.get orig := by
  cases e with
  | new orig' =>
    rw [mcastStep]
    cases s.origs.get orig' with
    | some o => rfl
    | none => exact Table.get_set_of_ne _ _ (Ne.symm hne)
  | tvlv orig' flags tvlvValue =>
    rw [mcastStep]
    cases s.origs.get orig' with
    | none => rfl
    | some o =>
      simp only [origs_mcastTvlvOgmHandler]
      exact Table.get_set_of_ne _ _ (Ne.symm hne)
  | free orig' =>
    rw [mcastStep]
    cases s.origs.get orig' with
    | none => rfl
    | some o =>
      have hkeep : decide (orig ≠ orig') = true := decide_eq_true (Ne.symm hne)
      simp only [Table.get_filter h.keys]
      cases s.origs.get orig <;> simp [hkeep]

/-- A run that is about others does not change an originator. -/
lemma get_final_mcastStep_of_ne {s : McastPriv} (h : s.Inv) {orig : OrigPtr}
    {events : List McastEvent} (hne : ∀ e ∈ events, e.orig ≠ orig) :
    (Run.final mcastStep s events).origs.get orig = s.origs.get orig := by
  let keeps (t : McastPriv) : Prop := t.Inv ∧ t.origs.get orig = s.origs.get orig
  have hkeep : keeps (Run.final mcastStep s events) :=
    Run.AllSteps.invariant (P := fun _ e => e.orig ≠ orig) keeps
      (fun t e ht he => ⟨ht.1.step e, (get_mcastStep_of_ne ht.1 he).trans ht.2⟩) ⟨h, rfl⟩
      (.of_forall_mem hne)
  exact hkeep.2

/-- The flags after redundant ones were removed. -/
lemma mcastHas_mcastTvlvFlagsGet (g : McastGroup) (flags : U8) :
    mcastHas g.wantAllFlag (mcastTvlvFlagsGet true [flags, 0, 0, 0]) =
        mcastHas g.wantAllFlag flags ∧
      mcastHas MCAST_WANT_ALL_UNSNOOPABLES (mcastTvlvFlagsGet true [flags, 0, 0, 0]) =
        mcastHas MCAST_WANT_ALL_UNSNOOPABLES flags ∧
      mcastLacks g.noRtrFlag (mcastTvlvFlagsGet true [flags, 0, 0, 0]) =
        (mcastLacks g.noRtrFlag flags && !mcastHas g.wantAllFlag flags) := by
  have htable : ∀ flags : U8, ∀ ip6 : Bool,
      let all := if ip6 then MCAST_WANT_ALL_IPV6 else MCAST_WANT_ALL_IPV4
      let noRtr := if ip6 then MCAST_WANT_NO_RTR6 else MCAST_WANT_NO_RTR4
      mcastHas all (mcastTvlvFlagsGet true [flags, 0, 0, 0]) = mcastHas all flags ∧
        mcastHas MCAST_WANT_ALL_UNSNOOPABLES (mcastTvlvFlagsGet true [flags, 0, 0, 0]) =
          mcastHas MCAST_WANT_ALL_UNSNOOPABLES flags ∧
        mcastLacks noRtr (mcastTvlvFlagsGet true [flags, 0, 0, 0]) =
          (mcastLacks noRtr flags && !mcastHas all flags) := by
    decide +kernel
  cases g with
  | ip4 addr => exact htable flags false
  | ip6 addr => exact htable flags true

namespace McastForwarder.Heard

variable {f : McastForwarder} {origNode : OrigPtr} {mla : McastMla}

lemma inv (h : f.Heard origNode mla) : f.mcast.Inv := by
  obtain ⟨before, after, heq, -⟩ := h.tvlv
  rw [heq]
  exact McastPriv.inv_final _

/-- The flags that are kept are those of the last container. -/
lemma flags (h : f.Heard origNode mla) :
    ∃ o, f.mcast.origs.get origNode = some o ∧
      o.mcastFlags = mcastTvlvFlagsGet true mla.tvlvValue := by
  obtain ⟨before, after, heq, hafter⟩ := h.tvlv
  rw [Run.final_append, Run.final_cons] at heq
  have hinv := (McastPriv.inv_final before).step (.tvlv origNode 0 mla.tvlvValue)
  -- the others' events do not change what is kept for this originator
  have hget := get_final_mcastStep_of_ne hinv hafter
  rw [← heq] at hget
  have hlive := h.live
  rw [hget] at hlive ⊢
  generalize Run.final mcastStep McastPriv.init before = s at hlive ⊢
  rw [mcastStep] at hlive ⊢
  cases hbefore : s.origs.get origNode with
  | none => simp [hbefore] at hlive
  | some o =>
    simp only [origs_mcastTvlvOgmHandler, Table.get_set_self]
    exact ⟨_, rfl, rfl⟩

/-- **In which lists a node is** that has been heard, by what it has read from the kernel. -/
lemma mem_lists {dev : McastDev} (h : f.Heard origNode mla)
    (hflags : mla.mlaFlags = mcastMlaFlagsGet dev) (g : McastGroup) :
    (origNode ∈ f.wantAllList g ↔ dev.wantsAll g = true) ∧
      (origNode ∈ f.mcast.wantAllUnsnoopables.list ↔ dev.bridge.isSome = true) ∧
      (origNode ∈ f.wantRtrList g ↔ dev.hasRouter g = true ∧ dev.wantsAll g = false) := by
  obtain ⟨o, hget, ho⟩ := h.flags
  have hagree := h.inv.agree
  have hlive (wants : U8 → Bool) : mcastLive f.mcast.origs wants origNode ↔
      wants (mcastTvlvFlagsGet true mla.tvlvValue) = true := by
    simp [mcastLive, hget, ho]
  obtain ⟨hall, hunsnoop, hrtr⟩ := mcastHas_mcastTvlvFlagsGet g mla.mlaFlags.tvlvFlags
  obtain ⟨hall', hunsnoop', hrtr'⟩ := tvlvFlags_spec dev g
  rw [hflags] at hall hunsnoop hrtr
  rw [hall'] at hall hrtr
  rw [hunsnoop'] at hunsnoop
  rw [hrtr'] at hrtr
  have hvalue : mla.tvlvValue = [(mcastMlaFlagsGet dev).tvlvFlags, 0, 0, 0] := by
    rw [McastMla.tvlvValue, hflags]
  rw [← hvalue] at hall hunsnoop hrtr
  have hlist (num : ℤ) (list : List OrigPtr) (wants : U8 → Bool)
      (hl : CountedList.Agrees ⟨num, list⟩ (mcastLive f.mcast.origs wants)) :
      origNode ∈ list ↔ wants (mcastTvlvFlagsGet true mla.tvlvValue) = true :=
    (hl.mem origNode).trans (hlive wants)
  refine ⟨?_, ?_, ?_⟩
  · rw [← hall]
    cases g with
    | ip4 addr => exact hlist _ _ _ hagree.ipv4
    | ip6 addr => exact hlist _ _ _ hagree.ipv6
  · rw [← hunsnoop]
    exact hlist _ _ _ hagree.unsnoopables
  · have hboth : dev.hasRouter g = true ∧ dev.wantsAll g = false ↔
        ((dev.hasRouter g || dev.wantsAll g) && !dev.wantsAll g) = true := by
      cases dev.hasRouter g <;> cases dev.wantsAll g <;> simp
    rw [hboth, ← hrtr]
    cases g with
    | ip4 addr => exact hlist _ _ _ hagree.rtr4
    | ip6 addr => exact hlist _ _ _ hagree.rtr6

/-- The node is no gateway of the same LAN: it is served as often as it is a recipient. -/
lemma count_served (h : f.Heard origNode mla) (origs : List OrigPtr) :
    (f.served 0 origs).count origNode = origs.count origNode := by
  rw [McastForwarder.served, List.count_filter]
  rw [h.notBackbone]
  rfl

/-- **A node is a recipient once** if it is so by one of the lists only. -/
lemma count_recipients_le_one (h : f.Heard origNode mla) {g : McastGroup}
    (htt : origNode ∈ f.ttOrigs g.hDest 0 → origNode ∉ f.wantAllList g ∧
      (g.routable = true → origNode ∉ f.wantRtrList g)) :
    (f.recipients g 0).count origNode ≤ 1 := by
  have hagree := h.inv.agree
  have hall : (f.wantAllList g).Nodup := by
    cases g with
    | ip4 addr => exact hagree.ipv4.nodup
    | ip6 addr => exact hagree.ipv6.nodup
  have hrtr : (if g.routable then f.wantRtrList g else []).Nodup := by
    split
    · cases g with
      | ip4 addr => exact hagree.rtr4.nodup
      | ip6 addr => exact hagree.rtr6.nodup
    · exact List.nodup_nil
  have hboth : origNode ∈ f.wantAllList g → origNode ∉ f.wantRtrList g := by
    cases g with
    | ip4 addr => exact hagree.notBoth4 origNode
    | ip6 addr => exact hagree.notBoth6 origNode
  have hle (l : List OrigPtr) (hl : l.Nodup) : l.count origNode ≤ 1 :=
    List.nodup_iff_count_le_one.1 hl origNode
  rw [McastForwarder.recipients, List.count_append, List.count_append]
  have hle₁ := hle _ (h.nodup g.hDest 0)
  have hle₂ := hle _ hall
  have hle₃ := hle _ hrtr
  have hnot {l : List OrigPtr} (hl : origNode ∉ l) : l.count origNode = 0 :=
    List.count_eq_zero.2 hl
  have hnotRtr (hl : g.routable = true → origNode ∉ f.wantRtrList g) :
      origNode ∉ if g.routable then f.wantRtrList g else [] := by
    split
    · exact hl ‹_›
    · exact List.not_mem_nil
  by_cases hmem : origNode ∈ f.ttOrigs g.hDest 0
  · rw [hnot (htt hmem).1, hnot (hnotRtr (htt hmem).2)]
    exact hle₁
  · by_cases hmem' : origNode ∈ f.wantAllList g
    · rw [hnot hmem, hnot (hnotRtr fun _ => hboth hmem')]
      omega
    · rw [hnot hmem, hnot hmem']
      omega

end McastForwarder.Heard

/-! ### When frames are delivered -/

section Delivery

variable {dev : McastDev} {ttLocalAdd : EthAddr → Bool} {mla : McastMla} {g : McastGroup}

/-- A deliverable group is delivered. -/
lemma McastDev.Deliverable.delivers (hlisted : dev.Listed)
    (h : dev.Deliverable ttLocalAdd mla g) {f : McastForwarder} {origNode : OrigPtr}
    {frame : McastFrame}
    (hheard : f.Heard origNode (mcastMlaUpdate (fun _ => true) ttLocalAdd dev mla))
    (halloc : f.Allocates) (hframe : frame.IsFor g) :
    f.Delivers origNode frame (dev.Interested (mcastMlaFlagsGet dev).tvlvFlags g) := by
  have hagree := hheard.inv.agree
  obtain ⟨hall, hunsnoop, hrtr⟩ := hheard.mem_lists (mlaFlags_mcastMlaUpdate hlisted _ _) g
  have htt := hheard.tt g.hDest (getLsbD_hDest g).1
  rw [mem_mcastMlaUpdate_iff hlisted] at htt
  refine ⟨fun hinterested => ?_, fun hmode => ?_⟩
  · -- it is a recipient, or the frame is broadcasted
    have hrecipient (hmem : origNode ∈ f.recipients g 0) :=
      bcast_or_selects_of_mem hframe halloc.mayPull halloc.copy hagree
        (List.mem_filter.2 ⟨hmem, by rw [hheard.notBackbone]; rfl⟩)
    have hbcast := bcast_of_unsnoopable hframe halloc.mayPull hagree
    have hwantsAll (hg : dev.wantsAll g = true) : origNode ∈ f.recipients g 0 := by
      simp [McastForwarder.recipients, hall.2 hg]
    have hrouter (hg : dev.hasRouter g = true ∧ g.routable = true) :
        origNode ∈ f.recipients g 0 := by
      by_cases hwant : dev.wantsAll g = true
      · exact hwantsAll hwant
      · simp [McastForwarder.recipients, hg.2, hrtr.2 ⟨hg.1, Bool.eq_false_of_not_eq_true hwant⟩]
    obtain ⟨hflagAll, hflagUnsnoop, -⟩ := tvlvFlags_spec dev g
    rcases hinterested with hjoined | hg | hg | ⟨hg, hbridge⟩
    · by_cases hcovers : dev.covers g = true
      · simp only [McastDev.covers, Bool.or_eq_true, Bool.and_eq_true] at hcovers
        rcases hcovers with (hg | ⟨hbridge, hg⟩) | hg
        · exact hrecipient (hwantsAll hg)
        · exact .inl (hbcast (.inr ⟨hg, origNode, hunsnoop.2 hbridge⟩))
        · exact hrecipient (hrouter hg)
      · by_cases hlocal : g.nodeLocal = true
        · exact .inl (hbcast (.inl hlocal))
        · rw [Bool.not_eq_true] at hcovers hlocal
          have hannounced : g ∈ dev.announced := by
            simp [McastDev.announced, hjoined, hlocal, hcovers]
          have hmem := htt.2 ⟨⟨g, hannounced, rfl⟩, h.accepted hjoined hlocal hcovers⟩
          exact hrecipient (List.mem_append_left _ (List.mem_append_left _ hmem))
    · exact hrecipient (hrouter hg)
    · exact hrecipient (hwantsAll (hflagAll ▸ hg))
    · exact .inl (hbcast (.inr ⟨hg, origNode, hunsnoop.2 (hflagUnsnoop ▸ hbridge)⟩))
  · intro sent hsent
    have hpos := List.count_pos_iff.2 hsent
    have hcount : sent.count origNode = (f.recipients g 0).count origNode := by
      rw [← hheard.count_served (f.recipients g 0)]
      exact congrArg _ (sent_of_ucasts hframe halloc.mayPull halloc.copy hagree hmode)
    have hle := hheard.count_recipients_le_one (g := g) fun hmem => by
      -- what is announced in the table is not covered by a flag
      obtain ⟨⟨g', hannounced, hdest⟩, haccepted⟩ := htt.1 hmem
      obtain ⟨hsame, -⟩ := wantsAll_eq_of_hDest_eq dev hdest
      have hcovers : dev.covers g' = false := by
        simpa using (List.mem_filter.1 hannounced).2
      have hwant : dev.wantsAll g = false := by
        rw [← hsame]
        simp only [McastDev.covers, Bool.or_eq_false_iff] at hcovers
        exact hcovers.1.1
      refine ⟨fun hmem => ?_, fun hg hmem => ?_⟩
      · exact Bool.false_ne_true (hwant.symm.trans (hall.1 hmem))
      · exact h.notTwice hg (hrtr.1 hmem).1 hwant g' hannounced hdest haccepted
    omega

/-- A node that has heard of one originator only, which announces its own address as a client
besides what it wants, and sends up to 16 copies of a frame. -/
def mcastOneHeard (mla : McastMla) : McastForwarder where
  mcast := Run.final mcastStep .init [.new 0, .tvlv 0 0 mla.tvlvValue]
  mlaFlags := ⟨⟨false, false⟩, ⟨false, false⟩, true, false, 0⟩
  multicastMode := true
  multicastFanout := 16
  orig := fun _ => 0x020000000001
  ttGlobalHashFind := fun addr _ =>
    if addr ∈ mla.mlaList ∨ addr = 0x020000000001 then some [0] else none
  isBackboneGwOrig := fun _ _ => false
  pskbMayPull := true
  pskbExpandHead := true
  skbCopy := fun _ => true

/-- An empty frame for a group. -/
def mcastFrameFor (g : McastGroup) : McastFrame := ⟨g.hDest, some g, false, ⟨0, []⟩⟩

lemma heard_mcastOneHeard (mla : McastMla) : (mcastOneHeard mla).Heard 0 mla := by
  have htt (addr : EthAddr) (vid : U16) :
      (mcastOneHeard mla).ttOrigs addr vid =
        if addr ∈ mla.mlaList ∨ addr = 0x020000000001 then [0] else [] := by
    unfold McastForwarder.ttOrigs mcastOneHeard
    dsimp only
    split <;> rfl
  refine ⟨⟨[.new 0], [], rfl, by simp⟩, ?_, fun addr vid => ?_, fun addr haddr => ?_, rfl⟩
  · simp [mcastOneHeard, mcastStep, McastPriv.init, origs_mcastTvlvOgmHandler]
  · rw [htt]
    split <;> simp
  · have hown : addr ≠ 0x020000000001 := by
      rintro rfl
      exact absurd haddr (by decide)
    rw [htt]
    simp only [hown, or_false]
    split <;> simp [*]

lemma allocates_mcastOneHeard (mla : McastMla) : (mcastOneHeard mla).Allocates :=
  ⟨rfl, rfl, fun _ => rfl⟩

/-- Nobody else is known. -/
lemma mem_singleton_of_mcastLive {wants : U8 → Bool} {origNode : OrigPtr}
    (h : mcastLive (mcastOneHeard mla).mcast.origs wants origNode) : origNode ∈ [0] := by
  obtain ⟨o, hget, -⟩ := h
  rw [List.mem_singleton]
  by_contra hne
  have hother : ∀ e ∈ [McastEvent.new 0, .tvlv 0 0 mla.tvlvValue], e.orig ≠ origNode := by
    simpa [McastEvent.orig] using Ne.symm hne
  have hnone := get_final_mcastStep_of_ne McastPriv.inv_init hother
  exact Option.some_ne_none o (hget.symm.trans hnone)

/-- There are few recipients. -/
lemma length_recipients_mcastOneHeard_le (mla : McastMla) (g : McastGroup) :
    ((mcastOneHeard mla).recipients g 0).length ≤ 16 := by
  have hagree := (heard_mcastOneHeard mla).inv.agree
  have hle {l : CountedList OrigPtr} {wants : U8 → Bool}
      (hl : l.Agrees (mcastLive (mcastOneHeard mla).mcast.origs wants)) : l.list.length ≤ 1 :=
    (hl.nodup.subperm fun j hj => mem_singleton_of_mcastLive ((hl.mem j).1 hj)).length_le
  have htt : ((mcastOneHeard mla).ttOrigs g.hDest 0).length ≤ 1 := by
    unfold McastForwarder.ttOrigs mcastOneHeard
    dsimp only
    split <;> simp
  have hall : ((mcastOneHeard mla).wantAllList g).length ≤ 1 := by
    cases g with
    | ip4 addr => exact hle hagree.ipv4
    | ip6 addr => exact hle hagree.ipv6
  have hrtr : (if g.routable then (mcastOneHeard mla).wantRtrList g else []).length ≤ 1 := by
    split
    · cases g with
      | ip4 addr => exact hle hagree.rtr4
      | ip6 addr => exact hle hagree.rtr6
    · simp
  rw [McastForwarder.recipients, List.length_append, List.length_append]
  omega

/-- Such a node sends copies if there are recipients, and none of them hides listeners. -/
lemma mode_mcastOneHeard (mla : McastMla) (hlocal : g.nodeLocal = false)
    (hunsnoop : (mcastOneHeard mla).unsnoopCount g = 0) :
    (mcastForwMode (mcastOneHeard mla) (mcastFrameFor g) 0).mode =
      if (mcastOneHeard mla).recipients g 0 = [] then .none else .ucasts := by
  have hagree := (heard_mcastOneHeard mla).inv.agree
  have hle : (((mcastOneHeard mla).recipients g 0).length : ℤ) ≤ 16 := by
    exact_mod_cast length_recipients_mcastOneHeard_le mla g
  rw [mcastForwMode_eq (g := g) ⟨rfl, rfl, rfl⟩ rfl hagree]
  simp only [hlocal, hunsnoop, add_zero]
  have hmode : (mcastOneHeard mla).multicastMode = true := rfl
  rw [hmode]
  simp only [Bool.not_true, Bool.or_false, Bool.false_eq_true, if_false, ne_eq,
    not_true_eq_false, Int.natCast_eq_zero, List.length_eq_zero_iff]
  split
  · rfl
  · have hflags : (mcastOneHeard mla).mlaFlags.tvlvFlags = 0 := rfl
    have hcapa : mcastHas MCAST_HAVE_MC_PTYPE_CAPA 0 = false := by decide
    have hfanout : (mcastOneHeard mla).multicastFanout = 16 := rfl
    simp only [mcastForwModeByCount, hflags, hcapa, hfanout, Bool.and_false, Bool.false_and,
      Bool.false_eq_true, if_false, if_pos hle]

/-- A group that is routable is not of the other kinds. -/
lemma not_nodeLocal_of_routable (h : g.routable = true) :
    g.nodeLocal = false ∧ g.unsnoopable = false := by
  cases g with
  | ip4 addr => exact ⟨rfl, by simpa [McastGroup.routable, McastGroup.unsnoopable] using h⟩
  | ip6 addr =>
    have hscope : 2 < (ipv6AddrMcScope addr).toNat := by
      simpa [McastGroup.routable, IPV6_ADDR_SCOPE_LINKLOCAL] using h
    refine ⟨?_, ?_⟩
    · exact decide_eq_false (Nat.not_lt.2 hscope.le)
    · by_contra hnodes
      have := ipv6AddrMcScope_of_llAllNodes (Bool.eq_true_of_not_eq_false hnodes)
      omega

/-- A group whose frames are delivered is deliverable. -/
lemma McastDev.Deliverable.of_delivers (hlisted : dev.Listed)
    (h : let mla' := mcastMlaUpdate (fun _ => true) ttLocalAdd dev mla
      (mcastOneHeard mla').Delivers 0 (mcastFrameFor g)
        (dev.Interested (mcastMlaFlagsGet dev).tvlvFlags g)) :
    dev.Deliverable ttLocalAdd mla g := by
  obtain ⟨hreached, honce⟩ := h
  have hmla := mlaFlags_mcastMlaUpdate hlisted ttLocalAdd mla
  have hannounced := mem_mcastMlaUpdate_iff hlisted ttLocalAdd mla g
  generalize mcastMlaUpdate (fun _ => true) ttLocalAdd dev mla = mla' at *
  have hheard := heard_mcastOneHeard mla'
  have hagree := hheard.inv.agree
  have hframe : (mcastFrameFor g).IsFor g := ⟨rfl, rfl, rfl⟩
  obtain ⟨hall, hunsnoop, hrtr⟩ := hheard.mem_lists hmla g
  have htt := (hheard.tt g.hDest (getLsbD_hDest g).1).trans hannounced
  refine ⟨fun hjoined hlocal hcovers => ?_, fun hg hrouter hwant g' hg' hdest haccepted => ?_⟩
  · -- only the translation table can have it
    simp only [McastDev.covers, Bool.or_eq_false_iff, Bool.and_eq_false_iff] at hcovers
    have hcount : (mcastOneHeard mla').unsnoopCount g = 0 := by
      unfold McastForwarder.unsnoopCount
      split
      · rename_i hg
        rw [hagree.unsnoopables.num, Int.natCast_eq_zero, List.length_eq_zero_iff,
          List.eq_nil_iff_forall_not_mem]
        intro j hj
        have hj0 := mem_singleton_of_mcastLive ((hagree.unsnoopables.mem j).1 hj)
        rw [List.mem_singleton.1 hj0, hunsnoop] at hj
        simp [hg, hj] at hcovers
      · rfl
    have hmode := mode_mcastOneHeard mla' hlocal hcount
    have hselects := hreached (.inl hjoined)
    unfold McastForwarder.Selects at hselects
    rw [hmode] at hselects
    split at hselects
    · simp at hselects
    · rename_i hne
      rw [if_neg hne] at hmode
      simp only [reduceCtorEq, false_or] at hselects
      rw [sent_of_ucasts hframe rfl (fun _ => rfl) hagree hmode] at hselects
      have hmem := List.mem_of_mem_filter hselects
      rw [McastForwarder.recipients, List.mem_append, List.mem_append] at hmem
      rcases hmem with (hmem | hmem) | hmem
      · exact (htt.1 hmem).2
      · exact absurd (hall.1 hmem) (by simp [hcovers])
      · split at hmem
        · rename_i hg
          exact absurd hcovers.2 (by simp [(hrtr.1 hmem).1, hg])
        · exact absurd hmem List.not_mem_nil
  · -- it is both in the translation table and in the list of the routers
    obtain ⟨hlocal, hunsnoopable⟩ := not_nodeLocal_of_routable hg
    have hcount : (mcastOneHeard mla').unsnoopCount g = 0 := by
      rw [McastForwarder.unsnoopCount, hunsnoopable]
      rfl
    have hmem := htt.2 ⟨⟨g', hg', hdest⟩, haccepted⟩
    have hmem' := hrtr.2 ⟨hrouter, hwant⟩
    have hrecipients : 1 < ((mcastOneHeard mla').recipients g 0).count 0 := by
      rw [McastForwarder.recipients, List.count_append, List.count_append, if_pos hg]
      have := List.count_pos_iff.2 hmem
      have := List.count_pos_iff.2 hmem'
      omega
    have hne : (mcastOneHeard mla').recipients g 0 ≠ [] := by
      intro hnil
      rw [hnil] at hrecipients
      exact absurd hrecipients (by simp)
    have hmode := mode_mcastOneHeard mla' hlocal hcount
    rw [if_neg hne] at hmode
    have hsent := sent_of_ucasts hframe rfl (fun _ => rfl) hagree hmode
    have hone := honce hmode
    simp only [hsent, hheard.count_served] at hone
    have := hone (List.count_pos_iff.1 (by rw [hheard.count_served]; omega))
    omega

/-- **Frames for a group are delivered** by every node that has heard what a node announces if and
only if the group is deliverable: the translation table accepts it where it has to be announced, and
none that is announced has the same address where all routable packets are wanted. -/
theorem mcast_delivery_iff (hlisted : dev.Listed) :
    (∀ (f : McastForwarder) (origNode : OrigPtr) (frame : McastFrame),
      f.Heard origNode (mcastMlaUpdate (fun _ => true) ttLocalAdd dev mla) → f.Allocates →
        frame.IsFor g →
          f.Delivers origNode frame (dev.Interested (mcastMlaFlagsGet dev).tvlvFlags g)) ↔
      dev.Deliverable ttLocalAdd mla g := by
  refine ⟨fun h => ?_, fun h f origNode frame hheard halloc hframe => ?_⟩
  · exact .of_delivers hlisted (h _ 0 _ (heard_mcastOneHeard _) (allocates_mcastOneHeard _)
      ⟨rfl, rfl, rfl⟩)
  · exact h.delivers hlisted hheard halloc hframe

end Delivery

/-- A node that has joined 239.1.2.3, and is no multicast router. -/
def mcastListenerDev : McastDev := ⟨none, some ⟨false, [0xEF010203]⟩, none, []⟩

theorem mcast_delivery_iff_listener :
    (mcastOneHeard (mcastMlaUpdate (fun _ => true) (fun _ => true) mcastListenerDev
      ⟨[], mcastMlaFlagsGet mcastListenerDev⟩)).Delivers 0 (mcastFrameFor (.ip4 0xEF010203))
        (mcastListenerDev.Interested (mcastMlaFlagsGet mcastListenerDev).tvlvFlags
          (.ip4 0xEF010203)) := by
  have hlisted : mcastListenerDev.Listed := by simp [McastDev.Listed, mcastListenerDev]
  have hrouter : mcastListenerDev.hasRouter (.ip4 0xEF010203) = false := by decide
  exact (mcast_delivery_iff hlisted).2
    ⟨fun _ _ _ => .inr rfl, fun _ h => absurd (hrouter.symm.trans h) Bool.false_ne_true⟩ _ 0 _
    (heard_mcastOneHeard _) (allocates_mcastOneHeard _) ⟨rfl, rfl, rfl⟩

/-- An IPv4 multicast router that has joined 224.0.0.1. -/
def mcastRouterDev : McastDev := ⟨none, some ⟨true, [0xE0000001]⟩, none, []⟩

/-- What it announces: the flag for routable packets, and the address of 224.0.0.1. -/
def mcastRouterMla : McastMla :=
  mcastMlaUpdate (fun _ => true) (fun _ => true) mcastRouterDev
    ⟨[], mcastMlaFlagsGet mcastRouterDev⟩

/-- A frame for 239.0.0.1, which has the address of 224.0.0.1, is sent to it twice. -/
theorem mcast_delivery_fails :
    let f := mcastOneHeard mcastRouterMla
    let frame := mcastFrameFor (.ip4 0xEF000001)
    mcastRouterDev.Listed ∧ f.Heard 0 mcastRouterMla ∧ f.Allocates ∧
      frame.IsFor (.ip4 0xEF000001) ∧ (mcastForwMode f frame 0).mode = .ucasts ∧
      (mcastForwSend f frame 0 (mcastForwMode f frame 0).isRoutable).2.sent = [0, 0] ∧
      ¬f.Delivers 0 frame (mcastRouterDev.Interested (mcastMlaFlagsGet mcastRouterDev).tvlvFlags
        (.ip4 0xEF000001)) := by
  have hsent : (mcastForwMode (mcastOneHeard mcastRouterMla) (mcastFrameFor (.ip4 0xEF000001))
        0).mode = .ucasts ∧
      (mcastForwSend (mcastOneHeard mcastRouterMla) (mcastFrameFor (.ip4 0xEF000001)) 0
        (mcastForwMode (mcastOneHeard mcastRouterMla) (mcastFrameFor (.ip4 0xEF000001))
          0).isRoutable).2.sent = [0, 0] := by
    decide
  refine ⟨by simp [McastDev.Listed, mcastRouterDev], heard_mcastOneHeard _,
    allocates_mcastOneHeard _, ⟨rfl, rfl, rfl⟩, hsent.1, hsent.2, fun hdelivers => ?_⟩
  have hone := hdelivers.once hsent.1
  simp only [hsent.2] at hone
  exact absurd (hone (by decide)) (by decide)

end Batadv
