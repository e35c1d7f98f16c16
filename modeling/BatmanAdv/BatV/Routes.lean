import BatmanAdv.BatV.Window

set_option relaxedAutoImplicit false
set_option autoImplicit false

/-!
# What an OGM2 packet does to the routes

For every originator and outgoing interface a node has a router, and for every neighbour the cost
and the sequence number of its last OGM that was accepted.  The processing of an OGM stores the cost
of the neighbour it came from; it makes this neighbour the router only if there is none, or if its
cost is smaller than that of the router, or its OGM much newer; and it sends an OGM on only if the
neighbour is the router then.  Everything else is left alone.

## Main definitions

* `Batadv.RouteStep` — what the processing for one outgoing interface does.

## Main results

* `Batadv.vOgmProcessPerOutif_routes` — the processing takes such a step.
* `Batadv.vOgmProcess_other` — an OGM of another originator changes no route and no window.
-/

namespace Batadv

variable {δ : Type*} {msecsToJiffies : ℕ → Jiffies} {ev : OgmRecv}
variable {ifOutgoing : Option HardIface}

/-! ### The parts of the processing -/

/-- Storing the metric changes the record of the neighbour for the outgoing interface only, and not
even that if it fails. -/
lemma neighIfinfoGet_ogmStoreMetric {config : MeshConfig} {orig orig' : OrigNode δ} {ok : Bool}
    (h : ogmStoreMetric config ev orig ifOutgoing = (orig', ok)) {neigh : NeighKey} {key : IfKey}
    (hne : neigh ≠ ev.neigh ∨ key ≠ ifKey ifOutgoing ∨ ok = false) :
    orig'.neighIfinfoGet neigh key = orig.neighIfinfoGet neigh key := by
  have hset : ∀ {n n' : NeighNode}, orig.neighList.get ev.neigh = some n →
      (neigh = ev.neigh → n'.ifinfoList.get key = n.ifinfoList.get key) →
      OrigNode.neighIfinfoGet { orig with neighList := orig.neighList.set ev.neigh n' } neigh key =
        orig.neighIfinfoGet neigh key := by
    intro n n' hn hsame
    unfold OrigNode.neighIfinfoGet
    by_cases heq : neigh = ev.neigh
    · rw [heq, Table.get_set_self, hn]
      exact hsame heq
    · rw [Table.get_set_of_ne _ _ heq]
  unfold ogmStoreMetric at h
  cases hn : orig.neighList.get ev.neigh with
  | none =>
    rw [hn] at h
    cases h
    rfl
  | some n =>
    rw [hn] at h
    dsimp only at h
    cases hnew : neighIfinfoNew ev.alloc { n with lastSeen := ev.jiffies } (ifKey ifOutgoing) with
    | none =>
      rw [hnew] at h
      cases h
      exact hset hn fun _ => rfl
    | some r =>
      obtain ⟨n', info⟩ := r
      rw [hnew] at h
      cases h
      refine hset hn fun heq => ?_
      have hkey : key ≠ ifKey ifOutgoing :=
        (hne.resolve_left (not_not.2 heq)).resolve_right (by simp)
      rw [Table.get_set_of_ne _ _ hkey]
      unfold neighIfinfoNew at hnew
      split at hnew
      · cases hnew
        rfl
      · split_ifs at hnew
        cases hnew
        exact Table.get_set_of_ne _ _ hkey

/-- The router of a record that was looked up or added. -/
lemma router_ogmLastIfinfo (orig : OrigNode δ) (key : IfKey) :
    (ogmLastIfinfo msecsToJiffies ev orig key).router = origRouterGet orig key := by
  unfold ogmLastIfinfo origRouterGet
  cases orig.ifinfoList.get key <;> rfl

/-- A metric update changes no router, and of the costs at most that of the neighbour for the
outgoing interface. -/
lemma vOgmMetricUpdate_routes {config : MeshConfig} {orig orig' : OrigNode δ} {age : ℤ}
    (h : vOgmMetricUpdate msecsToJiffies config ev orig ifOutgoing = (orig', age)) :
    (∀ key, origRouterGet orig' key = origRouterGet orig key) ∧
      ∀ neigh key, neigh ≠ ev.neigh ∨ key ≠ ifKey ifOutgoing ∨ age < 0 →
        orig'.neighIfinfoGet neigh key = orig.neighIfinfoGet neigh key := by
  obtain ⟨hother, -, hcases⟩ := vOgmMetricUpdate_window h
  refine ⟨fun key => ?_, fun neigh key hne => ?_⟩
  · unfold origRouterGet
    by_cases hkey : key = ifKey ifOutgoing
    · rcases hcases with ⟨-, -, -, hself⟩ | ⟨reset, started, -, -, hself⟩
      · rw [hkey]
        rcases hself with hself | ⟨hnone, hself⟩
        · rw [hself]
        · rw [hself, hnone]
          rfl
      · rw [hkey, hself]
        exact router_ogmLastIfinfo orig (ifKey ifOutgoing)
    · rw [hother key hkey]
  · unfold vOgmMetricUpdate at h
    cases hnew : origIfinfoNew msecsToJiffies ev.jiffies ev.alloc orig (ifKey ifOutgoing) with
    | none =>
      rw [hnew] at h
      cases h
      rfl
    | some r =>
      obtain ⟨orig₁, last⟩ := r
      rw [hnew] at h
      obtain ⟨-, hneigh, -⟩ := origIfinfoNew_last hnew
      have hsame : ∀ o : OrigNode δ, o.neighList = orig.neighList →
          o.neighIfinfoGet neigh key = orig.neighIfinfoGet neigh key := fun o ho => by
        rw [OrigNode.neighIfinfoGet, OrigNode.neighIfinfoGet, ho]
      cases hcheck : ogmSeqnoCheck msecsToJiffies ev orig₁ last with
      | none =>
        dsimp only at h
        rw [hcheck] at h
        cases h
        exact hsame _ hneigh
      | some r =>
        obtain ⟨reset, started⟩ := r
        dsimp only at h
        rw [hcheck] at h
        dsimp only at h
        generalize hstore : ogmStoreMetric config ev _ ifOutgoing = stored at h
        obtain ⟨orig₂, ok⟩ := stored
        have hget : neigh ≠ ev.neigh ∨ key ≠ ifKey ifOutgoing ∨ ok = false →
            orig₂.neighIfinfoGet neigh key = orig₁.neighIfinfoGet neigh key := fun hne =>
          neighIfinfoGet_ogmStoreMetric hstore hne
        cases ok with
        | false =>
          cases h
          exact (hget (.inr (.inr rfl))).trans (hsame _ hneigh)
        | true =>
          have hage : ¬ age < 0 := by
            obtain ⟨-, rfl⟩ := Prod.ext_iff.1 h
            dsimp only
            split_ifs <;> decide
          cases h
          refine (hget ?_).trans (hsame _ hneigh)
          rcases hne with hne | hne | hne
          · exact .inl hne
          · exact .inr (.inl hne)
          · exact absurd hne hage

lemma routerOf_eq_of_find {bat : BatPriv δ} {addr : EthAddr} {orig : OrigNode δ}
    (h : origHashFind bat addr = some orig) (key : IfKey) :
    routerOf bat addr key = origRouterGet orig key := by
  rw [routerOf, h, Option.bind_some]

lemma neighIfinfoOf_eq_of_find {bat : BatPriv δ} {addr : EthAddr} {orig : OrigNode δ}
    (h : origHashFind bat addr = some orig) (neigh : NeighKey) (key : IfKey) :
    neighIfinfoOf bat addr neigh key = orig.neighIfinfoGet neigh key := by
  rw [neighIfinfoOf, h, Option.bind_some]

lemma routerOf_setOrig_self (bat : BatPriv δ) (addr : EthAddr) (orig : OrigNode δ) (key : IfKey) :
    routerOf (bat.setOrig addr orig) addr key = origRouterGet orig key :=
  routerOf_eq_of_find (origHashFind_setOrig_self _ _ _) key

lemma neighIfinfoOf_setOrig_self (bat : BatPriv δ) (addr : EthAddr) (orig : OrigNode δ)
    (neigh : NeighKey) (key : IfKey) :
    neighIfinfoOf (bat.setOrig addr orig) addr neigh key = orig.neighIfinfoGet neigh key :=
  neighIfinfoOf_eq_of_find (origHashFind_setOrig_self _ _ _) neigh key

lemma neighIfinfoOf_setOrig_of_ne (bat : BatPriv δ) {addr addr' : EthAddr} (orig : OrigNode δ)
    (h : addr' ≠ addr) (neigh : NeighKey) (key : IfKey) :
    neighIfinfoOf (bat.setOrig addr orig) addr' neigh key = neighIfinfoOf bat addr' neigh key := by
  rw [neighIfinfoOf, neighIfinfoOf, origHashFind_setOrig_of_ne _ _ h]

/-- Looking an originator up changes no route and no cost. -/
lemma vOgmOrigGet_routes [Inhabited δ] {bat bat' : BatPriv δ} {addr : EthAddr} {orig : OrigNode δ}
    (h : vOgmOrigGet ev bat addr = some (bat', orig)) (addr' : EthAddr) (key : IfKey) :
    routerOf bat' addr' key = routerOf bat addr' key ∧
      ∀ neigh, neighIfinfoOf bat' addr' neigh key = neighIfinfoOf bat addr' neigh key := by
  unfold vOgmOrigGet at h
  split at h
  · cases h
    exact ⟨rfl, fun _ => rfl⟩
  · next hfind =>
    split_ifs at h
    cases h
    by_cases heq : addr' = addr
    · subst heq
      refine ⟨?_, fun neigh => ?_⟩
      · rw [routerOf_setOrig_self, routerOf, hfind]
        rfl
      · rw [neighIfinfoOf_setOrig_self, neighIfinfoOf, hfind]
        rfl
    · exact ⟨routerOf_setOrig_of_ne _ _ heq key, fun neigh =>
        neighIfinfoOf_setOrig_of_ne _ _ heq neigh key⟩

/-- The router after a route was set. -/
lemma origRouterGet_updateRoute (orig : OrigNode δ) (key : IfKey) (neigh : NeighKey) :
    (∀ key' ≠ key, origRouterGet (updateRoute orig key neigh) key' = origRouterGet orig key') ∧
      (origRouterGet (updateRoute orig key neigh) key = origRouterGet orig key ∨
        origRouterGet (updateRoute orig key neigh) key = some neigh) := by
  unfold updateRoute
  cases hget : orig.ifinfoList.get key with
  | none => exact ⟨fun _ _ => rfl, .inl rfl⟩
  | some ifinfo =>
    refine ⟨fun key' hne => ?_, .inr ?_⟩
    · rw [origRouterGet, origRouterGet, Table.get_set_of_ne _ _ hne]
    · rw [origRouterGet, Table.get_set_self, Option.bind_some]

/-- The router may be replaced by the neighbour that an OGM came from. -/
def RouterReplaced (ev : OgmRecv) (bat : BatPriv δ) (key : IfKey) : Prop :=
  ∀ router ∈ routerOf bat ev.ogm.orig key, ∃ old new,
    neighIfinfoOf bat ev.ogm.orig router key = some old ∧
      neighIfinfoOf bat ev.ogm.orig ev.neigh key = some new ∧ keepRouter old new = false

/-- **What a route update does**: it keeps all costs and routes, or it makes the neighbour that the
OGM came from the router, which may replace the old one. -/
lemma vOgmRouteUpdate_routes [Inhabited δ] {bat bat' : BatPriv δ} {orig : OrigNode δ}
    {forward : Bool} (hfind : origHashFind bat ev.ogm.orig = some orig)
    (h : vOgmRouteUpdate ev bat ifOutgoing = (bat', forward)) :
    (∀ addr neigh key, neighIfinfoOf bat' addr neigh key = neighIfinfoOf bat addr neigh key) ∧
      (∀ addr key, addr ≠ ev.ogm.orig ∨ key ≠ ifKey ifOutgoing →
        routerOf bat' addr key = routerOf bat addr key) ∧
      (routerOf bat' ev.ogm.orig (ifKey ifOutgoing) =
          routerOf bat ev.ogm.orig (ifKey ifOutgoing) ∨
        routerOf bat' ev.ogm.orig (ifKey ifOutgoing) = some ev.neigh ∧
          RouterReplaced ev bat (ifKey ifOutgoing)) := by
  unfold vOgmRouteUpdate at h
  cases hget : vOgmOrigGet ev bat ev.source with
  | none =>
    rw [hget] at h
    cases h
    exact ⟨fun _ _ _ => rfl, fun _ _ _ => rfl, .inl rfl⟩
  | some r =>
    obtain ⟨bat₁, origNeigh⟩ := r
    have hsame := vOgmOrigGet_routes hget
    have hfind₁ := (vOgmOrigGet_eq_some hget).2.2 _ _ hfind
    -- nothing was changed
    have hkeep : ∀ {f : Bool}, (bat₁, f) = (bat', forward) →
        (∀ addr neigh key, neighIfinfoOf bat' addr neigh key = neighIfinfoOf bat addr neigh key) ∧
        (∀ addr key, addr ≠ ev.ogm.orig ∨ key ≠ ifKey ifOutgoing →
          routerOf bat' addr key = routerOf bat addr key) ∧
        (routerOf bat' ev.ogm.orig (ifKey ifOutgoing) =
            routerOf bat ev.ogm.orig (ifKey ifOutgoing) ∨
          routerOf bat' ev.ogm.orig (ifKey ifOutgoing) = some ev.neigh ∧
            RouterReplaced ev bat (ifKey ifOutgoing)) := by
      rintro f ⟨⟩
      exact ⟨fun addr neigh key => (hsame addr key).2 neigh, fun addr key _ => (hsame addr key).1,
        .inl (hsame _ _).1⟩
    -- the route was set
    have hset : ∀ {f : Bool}, RouterReplaced ev bat (ifKey ifOutgoing) →
        (bat₁.setOrig ev.ogm.orig (updateRoute orig (ifKey ifOutgoing) ev.neigh), f) =
          (bat', forward) →
        (∀ addr neigh key, neighIfinfoOf bat' addr neigh key = neighIfinfoOf bat addr neigh key) ∧
        (∀ addr key, addr ≠ ev.ogm.orig ∨ key ≠ ifKey ifOutgoing →
          routerOf bat' addr key = routerOf bat addr key) ∧
        (routerOf bat' ev.ogm.orig (ifKey ifOutgoing) =
            routerOf bat ev.ogm.orig (ifKey ifOutgoing) ∨
          routerOf bat' ev.ogm.orig (ifKey ifOutgoing) = some ev.neigh ∧
            RouterReplaced ev bat (ifKey ifOutgoing)) := by
      rintro f hreplaced ⟨⟩
      obtain ⟨hother, hself⟩ := origRouterGet_updateRoute orig (ifKey ifOutgoing) ev.neigh
      refine ⟨fun addr neigh key => ?_, fun addr key hne => ?_, ?_⟩
      · rw [← (hsame addr key).2]
        by_cases heq : addr = ev.ogm.orig
        · rw [heq, neighIfinfoOf_setOrig_self, neighIfinfoOf_eq_of_find hfind₁,
            OrigNode.neighIfinfoGet, OrigNode.neighIfinfoGet, (updateRoute_frame _ _ _).2]
        · exact neighIfinfoOf_setOrig_of_ne _ _ heq _ _
      · rw [← (hsame addr key).1]
        by_cases heq : addr = ev.ogm.orig
        · rw [heq, routerOf_setOrig_self, routerOf_eq_of_find hfind₁,
            hother key (hne.resolve_left (not_not.2 heq))]
        · exact routerOf_setOrig_of_ne _ _ heq _
      · rw [routerOf_setOrig_self, ← (hsame _ _).1, routerOf_eq_of_find hfind₁]
        exact hself.imp_right fun hself => ⟨hself, hreplaced⟩
    have hrouter : routerOf bat ev.ogm.orig (ifKey ifOutgoing) =
        origRouterGet orig (ifKey ifOutgoing) := routerOf_eq_of_find hfind _
    rw [hget] at h
    dsimp only at h
    rw [hfind₁] at h
    dsimp only at h
    cases hold : origRouterGet orig (ifKey ifOutgoing) with
    | none =>
      rw [hold] at h
      refine hset (fun router hr => ?_) h
      rw [hrouter, hold] at hr
      exact absurd hr (Option.not_mem_none router)
    | some router =>
      rw [hold] at h
      dsimp only at h
      split_ifs at h
      · exact hkeep h
      · exact hkeep h
      · cases hold₁ : orig.neighIfinfoGet router (ifKey ifOutgoing) with
        | none =>
          rw [hold₁] at h
          exact hkeep h
        | some old =>
          cases hnew : orig.neighIfinfoGet ev.neigh (ifKey ifOutgoing) with
          | none =>
            rw [hold₁, hnew] at h
            exact hkeep h
          | some new =>
            rw [hold₁, hnew] at h
            dsimp only at h
            by_cases hkeeps : keepRouter old new = true
            · rw [if_pos hkeeps] at h
              exact hkeep h
            · rw [if_neg hkeeps] at h
              refine hset (fun r hr => ⟨old, new, ?_, ?_, Bool.not_eq_true _ ▸ hkeeps⟩) h
              · rw [hrouter, hold] at hr
                rw [neighIfinfoOf_eq_of_find hfind, ← Option.some.inj hr, hold₁]
              · rw [neighIfinfoOf_eq_of_find hfind, hnew]

/-- Forwarding changes no route and no cost, and only an OGM from the router is sent on. -/
lemma vOgmForward_routes {config : MeshConfig} {orig orig' : OrigNode δ} {last : OrigIfinfo}
    {packet : Option Ogm2Packet} (hlast : orig.ifinfoList.get (ifKey ifOutgoing) = some last)
    (h : vOgmForward msecsToJiffies config ev orig ifOutgoing = (orig', packet)) :
    (∀ key, origRouterGet orig' key = origRouterGet orig key) ∧
      orig'.neighList = orig.neighList ∧
      (packet.isSome → origRouterGet orig (ifKey ifOutgoing) = some ev.neigh) := by
  obtain ⟨hother, hneigh, hself⟩ := vOgmForward_window hlast h
  refine ⟨fun key => ?_, hneigh, fun hpacket => ?_⟩
  · unfold origRouterGet
    by_cases hkey : key = ifKey ifOutgoing
    · rw [hkey, hlast]
      rcases hself with ⟨hself, -⟩ | ⟨hself, -⟩
      · rw [hself]
      · rw [hself]
        rfl
    · rw [hother key hkey]
  · cases ifOutgoing with
    | none =>
      cases h
      exact absurd hpacket (by decide)
    | some out =>
      have hnew : origIfinfoNew msecsToJiffies ev.jiffies ev.alloc orig (some out.ifindex) =
          some (orig, last) := by
        unfold origIfinfoNew
        rw [ifKey_some] at hlast
        rw [hlast]
      unfold vOgmForward at h
      dsimp only at h
      rw [hnew] at h
      dsimp only at h
      by_contra hrouter
      rw [ifKey_some] at hrouter
      rw [if_pos hrouter] at h
      cases h
      exact absurd hpacket (by decide)

/-- The window, the router and the costs of an originator for an interface are the same. -/
structure SameRoutes (bat bat' : BatPriv δ) (addr : EthAddr) (key : IfKey) : Prop where
  window : windowOf bat' addr key = windowOf bat addr key
  router : routerOf bat' addr key = routerOf bat addr key
  info : ∀ neigh, neighIfinfoOf bat' addr neigh key = neighIfinfoOf bat addr neigh key

lemma SameRoutes.refl (bat : BatPriv δ) (addr : EthAddr) (key : IfKey) :
    SameRoutes bat bat addr key := ⟨rfl, rfl, fun _ => rfl⟩

lemma SameRoutes.trans {bat bat₁ bat₂ : BatPriv δ} {addr : EthAddr} {key : IfKey}
    (h : SameRoutes bat bat₁ addr key) (h' : SameRoutes bat₁ bat₂ addr key) :
    SameRoutes bat bat₂ addr key :=
  ⟨h'.window.trans h.window, h'.router.trans h.router, fun neigh =>
    (h'.info neigh).trans (h.info neigh)⟩

/-! ### One outgoing interface -/

/-- **What the processing of an OGM for one outgoing interface does to the routes.**  Everything is
kept and nothing is sent on; or the cost of the neighbour that the OGM came from is stored, the
router is kept or this neighbour becomes the router in place of one that is not to be kept, and an
OGM that is sent on came from the router and carries the stored cost under the node's own weight. -/
inductive RouteStep (ev : OgmRecv) (ifOutgoing : Option HardIface) (bat bat' : BatPriv δ)
    (packet : Option Ogm2Packet) : Prop
  | kept (hpacket : packet = none)
      (hinfo : ∀ neigh, neighIfinfoOf bat' ev.ogm.orig neigh (ifKey ifOutgoing) =
        neighIfinfoOf bat ev.ogm.orig neigh (ifKey ifOutgoing))
      (hrouter : routerOf bat' ev.ogm.orig (ifKey ifOutgoing) =
        routerOf bat ev.ogm.orig (ifKey ifOutgoing))
  | stored (new : NeighIfinfo)
      (hnew : new = ⟨pathCost bat.config ev ifOutgoing, ev.ogm.seqno, ev.ogm.ttl⟩)
      (hnewest : (memoryOf bat' ev.ogm.orig (ifKey ifOutgoing)).newest = ev.ogm.seqno)
      (hstored : neighIfinfoOf bat' ev.ogm.orig ev.neigh (ifKey ifOutgoing) = some new)
      (hinfo : ∀ neigh ≠ ev.neigh, neighIfinfoOf bat' ev.ogm.orig neigh (ifKey ifOutgoing) =
        neighIfinfoOf bat ev.ogm.orig neigh (ifKey ifOutgoing))
      (hrouter : routerOf bat' ev.ogm.orig (ifKey ifOutgoing) =
          routerOf bat ev.ogm.orig (ifKey ifOutgoing) ∨
        routerOf bat' ev.ogm.orig (ifKey ifOutgoing) = some ev.neigh ∧
          ∀ router ∈ routerOf bat ev.ogm.orig (ifKey ifOutgoing), router = ev.neigh ∨ ∃ old,
            neighIfinfoOf bat ev.ogm.orig router (ifKey ifOutgoing) = some old ∧
              keepRouter old new = false)
      (hsent : ∀ p ∈ packet, routerOf bat' ev.ogm.orig (ifKey ifOutgoing) = some ev.neigh ∧
        p.throughput = selfWeight bat.config new.airtimeCost)

/-- **The processing for an outgoing interface** takes such a step, and leaves the routes and costs
of other originators and for other interfaces alone. -/
theorem vOgmProcessPerOutif_routes [Inhabited δ] {bat bat' : BatPriv δ} {orig : OrigNode δ}
    {age : ℤ} {packet : Option Ogm2Packet} (hfind : origHashFind bat ev.ogm.orig = some orig)
    (h : vOgmProcessPerOutif msecsToJiffies ev bat ifOutgoing = (bat', age, packet)) :
    (∀ addr key, addr ≠ ev.ogm.orig ∨ key ≠ ifKey ifOutgoing →
      routerOf bat' addr key = routerOf bat addr key ∧
        ∀ neigh, neighIfinfoOf bat' addr neigh key = neighIfinfoOf bat addr neigh key) ∧
      RouteStep ev ifOutgoing bat bat' packet := by
  have hspec := vOgmProcessPerOutif_spec hfind h
  obtain ⟨-, hstored⟩ := vOgmMetricUpdate_spec msecsToJiffies ev ifOutgoing bat.config orig
  unfold vOgmProcessPerOutif at h
  rw [hfind] at h
  dsimp only at h
  generalize hupd : vOgmMetricUpdate msecsToJiffies bat.config ev orig ifOutgoing = upd at h hstored
  obtain ⟨orig₁, age₁⟩ := upd
  obtain ⟨hrouter₁, hinfo₁⟩ := vOgmMetricUpdate_routes hupd
  dsimp only at h hstored
  -- after the metric update
  have hother₁ : ∀ addr key, addr ≠ ev.ogm.orig ∨ key ≠ ifKey ifOutgoing →
      routerOf (bat.setOrig ev.ogm.orig orig₁) addr key = routerOf bat addr key ∧
        ∀ neigh, neighIfinfoOf (bat.setOrig ev.ogm.orig orig₁) addr neigh key =
          neighIfinfoOf bat addr neigh key := by
    intro addr key hne
    by_cases heq : addr = ev.ogm.orig
    · have hkey := hne.resolve_left (not_not.2 heq)
      refine ⟨?_, fun neigh => ?_⟩
      · rw [heq, routerOf_setOrig_self, routerOf_eq_of_find hfind, hrouter₁]
      · rw [heq, neighIfinfoOf_setOrig_self, neighIfinfoOf_eq_of_find hfind,
          hinfo₁ neigh key (.inr (.inl hkey))]
    · exact ⟨routerOf_setOrig_of_ne _ _ heq _, fun neigh => neighIfinfoOf_setOrig_of_ne _ _ heq _ _⟩
  have hself₁ : routerOf (bat.setOrig ev.ogm.orig orig₁) ev.ogm.orig (ifKey ifOutgoing) =
      routerOf bat ev.ogm.orig (ifKey ifOutgoing) := by
    rw [routerOf_setOrig_self, routerOf_eq_of_find hfind, hrouter₁]
  by_cases hage : age₁ < 0
  · rw [if_pos hage] at h
    cases h
    refine ⟨hother₁, .kept rfl (fun neigh => ?_) hself₁⟩
    rw [neighIfinfoOf_setOrig_self, neighIfinfoOf_eq_of_find hfind,
      hinfo₁ neigh _ (.inr (.inr hage))]
  · rw [if_neg hage] at h
    have hnew := hstored (not_lt.1 hage)
    obtain ⟨new, hnewdef⟩ : ∃ new : NeighIfinfo,
      new = ⟨pathCost bat.config ev ifOutgoing, ev.ogm.seqno, ev.ogm.ttl⟩ := ⟨_, rfl⟩
    rw [← hnewdef, ← neighIfinfoOf_setOrig_self bat ev.ogm.orig] at hnew
    have hothers : ∀ neigh ≠ ev.neigh, neighIfinfoOf (bat.setOrig ev.ogm.orig orig₁) ev.ogm.orig
        neigh (ifKey ifOutgoing) = neighIfinfoOf bat ev.ogm.orig neigh (ifKey ifOutgoing) := by
      intro neigh hne
      rw [neighIfinfoOf_setOrig_self, neighIfinfoOf_eq_of_find hfind, hinfo₁ neigh _ (.inl hne)]
    generalize hroute : vOgmRouteUpdate ev (bat.setOrig ev.ogm.orig orig₁) ifOutgoing = upd at h
    obtain ⟨bat₂, forward⟩ := upd
    have hfind₁ : origHashFind (bat.setOrig ev.ogm.orig orig₁) ev.ogm.orig = some orig₁ :=
      origHashFind_setOrig_self _ _ _
    obtain ⟨hinfo₂, hother₂, hself₂⟩ := vOgmRouteUpdate_routes hfind₁ hroute
    obtain ⟨hsame₂, orig₂, hfind₂, -⟩ := vOgmRouteUpdate_frame hfind₁ hroute
    -- after the route update
    have hafter : ∀ bat₃ : BatPriv δ, (∀ addr key, routerOf bat₃ addr key = routerOf bat₂ addr key ∧
        ∀ neigh, neighIfinfoOf bat₃ addr neigh key = neighIfinfoOf bat₂ addr neigh key) →
        (memoryOf bat₃ ev.ogm.orig (ifKey ifOutgoing)).newest = ev.ogm.seqno →
        (∀ p ∈ packet, routerOf bat₃ ev.ogm.orig (ifKey ifOutgoing) = some ev.neigh) →
        (∀ addr key, addr ≠ ev.ogm.orig ∨ key ≠ ifKey ifOutgoing →
          routerOf bat₃ addr key = routerOf bat addr key ∧
            ∀ neigh, neighIfinfoOf bat₃ addr neigh key = neighIfinfoOf bat addr neigh key) ∧
          RouteStep ev ifOutgoing bat bat₃ packet := by
      intro bat₃ hsame hnewest hsent
      refine ⟨fun addr key hne => ⟨?_, fun neigh => ?_⟩, .stored new hnewdef hnewest ?_
        (fun neigh hne => ?_) ?_ fun p hp => ⟨hsent p hp, ?_⟩⟩
      · rw [(hsame addr key).1, hother₂ addr key hne, (hother₁ addr key hne).1]
      · rw [(hsame addr key).2, hinfo₂, (hother₁ addr key hne).2]
      · rw [(hsame _ _).2, hinfo₂, hnew]
      · rw [(hsame _ _).2, hinfo₂, hothers neigh hne]
      · rw [(hsame _ _).1, ← hself₁]
        refine hself₂.imp_right fun ⟨hset, hreplaced⟩ => ⟨hset, fun router hr => ?_⟩
        by_cases heq : router = ev.neigh
        · exact .inl heq
        · obtain ⟨old, new', hold, hnew', hkeep⟩ := hreplaced router hr
          obtain rfl := Option.some.inj (hnew'.symm.trans hnew)
          exact .inr ⟨old, by rw [← hothers router heq, hold], hkeep⟩
      · obtain ⟨out, rfl, -, -, rfl⟩ := hspec.2.2 p hp
        rw [hnewdef]
        rfl
    -- the record of the outgoing interface has the sequence number since the metric update
    obtain ⟨last, hlast, hseqno⟩ : ∃ last, orig₂.ifinfoList.get (ifKey ifOutgoing) = some last ∧
        last.lastRealSeqno = ev.ogm.seqno := by
      have hwindow := vOgmRouteUpdate_window hroute ev.ogm.orig (ifKey ifOutgoing)
      rw [windowOf_setOrig_self, windowOf_eq_of_find hfind₂] at hwindow
      rcases (vOgmMetricUpdate_window hupd).2.2 with ⟨hlt, -⟩ | ⟨reset, started, -, -, hself⟩
      · exact absurd hlt hage
      · rw [hself, Option.map_some] at hwindow
        obtain ⟨last, hlast, hsame⟩ := Option.map_eq_some_iff.1 hwindow
        exact ⟨last, hlast, congrArg OgmWindow.lastRealSeqno hsame⟩
    dsimp only at h
    cases forward with
    | false =>
      rw [if_neg Bool.false_ne_true] at h
      cases h
      refine hafter bat' (fun _ _ => ⟨rfl, fun _ => rfl⟩) ?_ fun p hp =>
        absurd hp (Option.not_mem_none p)
      rw [memoryOf, windowOf_eq_of_find hfind₂, hlast]
      exact hseqno
    | true =>
      rw [if_pos rfl, hfind₂] at h
      dsimp only at h
      generalize hfwd : vOgmForward msecsToJiffies bat₂.config ev orig₂ ifOutgoing = upd at h
      obtain ⟨orig₃, packet₃⟩ := upd
      cases h
      obtain ⟨hrouter₃, hneigh₃, hsent⟩ := vOgmForward_routes hlast hfwd
      refine hafter _ (fun addr key => setOrig_routes hfind₂ hneigh₃ hrouter₃ addr key) ?_
        fun p hp => ?_
      · rw [memoryOf, windowOf_setOrig_self]
        rcases (vOgmForward_window hlast hfwd).2.2 with ⟨hself, -⟩ | ⟨hself, -⟩
        · rw [hself]
          exact hseqno
        · rw [hself]
          exact hseqno
      · rw [routerOf_setOrig_self, hrouter₃]
        exact hsent (Option.isSome_iff_exists.2 ⟨p, hp⟩)

/-- An OGM starts the sequence window anew only if it is out of range. -/
lemma outOfRange_of_metricReset {orig : OrigNode δ}
    (h : metricReset msecsToJiffies ev orig ifOutgoing = true) :
    ogmSeqDiff ev (ogmLastIfinfo msecsToJiffies ev orig (ifKey ifOutgoing)) ≤ -OGM_MAX_AGE ∨
      EXPECTED_SEQNO_RANGE ≤
        ogmSeqDiff ev (ogmLastIfinfo msecsToJiffies ev orig (ifKey ifOutgoing)) := by
  unfold metricReset at h
  cases hnew : origIfinfoNew msecsToJiffies ev.jiffies ev.alloc orig (ifKey ifOutgoing) with
  | none =>
    rw [hnew] at h
    exact absurd h Bool.false_ne_true
  | some r =>
    obtain ⟨orig₁, last⟩ := r
    obtain ⟨rfl, -⟩ := origIfinfoNew_last hnew
    rw [hnew] at h
    dsimp only at h
    by_contra hin
    unfold ogmSeqnoCheck windowProtected at h
    dsimp only at h
    rw [if_neg hin, ite_self] at h
    dsimp only at h
    split_ifs at h with hold
    · exact absurd h Bool.false_ne_true
    · exact absurd h Bool.false_ne_true

/-- **An OGM is ignored, or taken notice of.**  It is ignored and nothing is sent on; or it is not
older than the newest one, or much older than that, becomes the newest one, and is sent on unless
that was done before; then the routes take a step. -/
theorem vOgmProcessPerOutif_noticed [Inhabited δ] {bat bat' : BatPriv δ} {orig : OrigNode δ}
    {age : ℤ} {packet : Option Ogm2Packet} (hfind : origHashFind bat ev.ogm.orig = some orig)
    (hn : (orig.neighList.get ev.neigh).isSome)
    (h : vOgmProcessPerOutif msecsToJiffies ev bat ifOutgoing = (bat', age, packet)) :
    (packet = none ∧
        memoryOf bat' ev.ogm.orig (ifKey ifOutgoing) =
          memoryOf bat ev.ogm.orig (ifKey ifOutgoing) ∧
        routerOf bat' ev.ogm.orig (ifKey ifOutgoing) =
          routerOf bat ev.ogm.orig (ifKey ifOutgoing) ∧
        ∀ neigh, neighIfinfoOf bat' ev.ogm.orig neigh (ifKey ifOutgoing) =
          neighIfinfoOf bat ev.ogm.orig neigh (ifKey ifOutgoing)) ∨
      ((ev.ogm.seqno - (memoryOf bat ev.ogm.orig (ifKey ifOutgoing)).newest).toInt ≤
            -OGM_MAX_AGE ∨
          0 ≤ (ev.ogm.seqno - (memoryOf bat ev.ogm.orig (ifKey ifOutgoing)).newest).toInt) ∧
        (memoryOf bat' ev.ogm.orig (ifKey ifOutgoing)).newest = ev.ogm.seqno ∧
        SerialWindow.Step (memoryOf bat ev.ogm.orig (ifKey ifOutgoing))
          (memoryOf bat' ev.ogm.orig (ifKey ifOutgoing)) (packet.map Ogm2Packet.seqno) ∧
        RouteStep ev ifOutgoing bat bat' packet := by
  have hmem := ogmLastWindow_memory msecsToJiffies ev bat (ifKey ifOutgoing)
  have hnewest : (ogmLastWindow msecsToJiffies ev bat (ifKey ifOutgoing)).lastRealSeqno =
      (memoryOf bat ev.ogm.orig (ifKey ifOutgoing)).newest :=
    congrArg SerialWindow.Memory.newest hmem
  have hroutes := (vOgmProcessPerOutif_routes hfind h).2
  have hguard : OutifGuard bat (.process ev ifOutgoing) := ⟨orig, hfind, hn⟩
  have hstep : SerialWindow.Step _ (memoryOf (outifNext msecsToJiffies bat _) _ _) _ :=
    memoryOf_step hguard ev.ogm.orig (ifKey ifOutgoing)
  have hqueued : queuedSeqno msecsToJiffies ev.ogm.orig (ifKey ifOutgoing) bat
      (.process ev ifOutgoing) = packet.map Ogm2Packet.seqno := by
    simp [queuedSeqno, OutifEvent.concerns, outifStep, h]
  have hnext : outifNext msecsToJiffies bat (.process ev ifOutgoing) = bat' := by
    simp only [outifNext, outifStep, h]
  rw [hqueued, hnext] at hstep
  obtain ⟨-, -, hwindow, -⟩ := vOgmProcessPerOutif_window hfind hn h
  cases hwindow with
  | rejected hreset hpacket hafter =>
    have hsame : memoryOf bat' ev.ogm.orig (ifKey ifOutgoing) =
        memoryOf bat ev.ogm.orig (ifKey ifOutgoing) := by
      rcases hafter with hafter | ⟨hbefore, hafter⟩
      · rw [memoryOf, memoryOf, hafter]
      · rw [← hmem, memoryOf, hafter]
    cases hroutes with
    | kept _ hinfo hrouter => exact .inl ⟨hpacket, hsame, hrouter, hinfo⟩
    | stored new hnew hseqno hstored hinfo hrouter hsent =>
      refine .inr ⟨.inr ?_, hseqno, hstep, .stored new hnew hseqno hstored hinfo hrouter hsent⟩
      rw [← hsame, hseqno, BitVec.sub_self]
      decide
  | accepted reset fwd hafter hcheck hsent =>
    have hseqno : (memoryOf bat' ev.ogm.orig (ifKey ifOutgoing)).newest = ev.ogm.seqno := by
      rw [memoryOf, hafter]
    refine .inr ⟨?_, hseqno, hstep, hroutes⟩
    rw [hnewest] at hcheck
    rcases hcheck with ⟨-, -, hge, -⟩ | ⟨hreset, -, -⟩
    · exact .inr hge
    · have hout := outOfRange_of_metricReset hreset
      have hlast := ogmLastIfinfo_window msecsToJiffies hfind (ifKey ifOutgoing)
      have hreal : (ogmLastIfinfo msecsToJiffies ev orig (ifKey ifOutgoing)).lastRealSeqno =
          (memoryOf bat ev.ogm.orig (ifKey ifOutgoing)).newest :=
        (congrArg OgmWindow.lastRealSeqno hlast).trans hnewest
      rw [ogmSeqDiff, hreal] at hout
      exact hout.imp_right fun hout => le_trans (by decide) hout

/-! ### The processing of one OGM -/

/-- What comes before the metric update changes no route and no cost. -/
lemma ogmTvlvState_routes [Inhabited δ] {bat bat' : BatPriv δ} {orig : OrigNode δ}
    {hardifNeigh : HardifNeighNode} (h : vOgmAccept ev bat = some (bat', orig, hardifNeigh))
    (addr : EthAddr) (key : IfKey) :
    routerOf (ogmTvlvState ev bat' orig) addr key = routerOf bat addr key ∧ ∀ neigh,
      neighIfinfoOf (ogmTvlvState ev bat' orig) addr neigh key =
        neighIfinfoOf bat addr neigh key := by
  unfold vOgmAccept at h
  split_ifs at h
  split at h
  · cases h
  · split at h
    · cases h
    · next bat₁ orig₁ hget =>
      split at h
      · cases h
      · next hneigh =>
        cases h
        have hfind := (vOgmOrigGet_eq_some hget).2.1
        obtain ⟨hrouter, hinfo⟩ := vOgmOrigGet_routes hget addr key
        have hcreated : orig.ifinfoList = orig₁.ifinfoList ∧ ∀ neigh key,
            orig.neighIfinfoGet neigh key = orig₁.neighIfinfoGet neigh key := by
          refine ⟨(neighNodeGetOrCreate_eq_some hneigh).2.2.1, fun neigh key => ?_⟩
          by_cases heq : neigh = ev.neigh
          · rw [heq, (neighNodeGetOrCreate_eq_some hneigh).2.1]
          · unfold neighNodeGetOrCreate at hneigh
            split at hneigh
            · cases hneigh
              rfl
            · split_ifs at hneigh
              cases hneigh
              rw [OrigNode.neighIfinfoGet, OrigNode.neighIfinfoGet, Table.get_set_of_ne _ _ heq]
        rw [← hrouter]
        by_cases heq : addr = ev.ogm.orig
        · subst heq
          refine ⟨?_, fun neigh => ?_⟩
          · rw [routerOf_eq_of_find hfind]
            refine (routerOf_eq_of_find (origHashFind_setOrig_self _ _ _) key).trans ?_
            rw [origRouterGet, origRouterGet, ← hcreated.1]
          · rw [← hinfo, neighIfinfoOf_eq_of_find hfind]
            refine (neighIfinfoOf_eq_of_find (origHashFind_setOrig_self _ _ _) neigh key).trans ?_
            exact hcreated.2 neigh key
        · exact ⟨routerOf_setOrig_of_ne _ _ heq key, fun neigh =>
            (neighIfinfoOf_setOrig_of_ne _ _ heq neigh key).trans (hinfo neigh)⟩

/-- An OGM that is dropped changes no route and no cost. -/
lemma vOgmRejectState_routes [Inhabited δ] (ev : OgmRecv) (bat : BatPriv δ) (addr : EthAddr)
    (key : IfKey) :
    routerOf (vOgmRejectState ev bat) addr key = routerOf bat addr key ∧ ∀ neigh,
      neighIfinfoOf (vOgmRejectState ev bat) addr neigh key = neighIfinfoOf bat addr neigh key := by
  unfold vOgmRejectState
  split_ifs
  · exact ⟨rfl, fun _ => rfl⟩
  · exact ⟨rfl, fun _ => rfl⟩
  · split
    · exact ⟨rfl, fun _ => rfl⟩
    · split
      · exact ⟨rfl, fun _ => rfl⟩
      · next hget => exact vOgmOrigGet_routes hget addr key

/-- The loop over the outgoing interfaces leaves the routes, costs and windows of other originators
alone. -/
lemma vOgmProcessIfaces_other [Inhabited δ] {bat : BatPriv δ} (outs : List HardIface)
    (hknown : ∃ orig, origHashFind bat ev.ogm.orig = some orig ∧
      (orig.neighList.get ev.neigh).isSome) {addr : EthAddr} (haddr : addr ≠ ev.ogm.orig)
    (key : IfKey) :
    SameRoutes bat (vOgmProcessIfaces msecsToJiffies ev bat outs).1 addr key := by
  induction outs generalizing bat with
  | nil => exact .refl _ _ _
  | cons out outs ih =>
    obtain ⟨orig, hfind, hn⟩ := hknown
    generalize hone : vOgmProcessPerOutif msecsToJiffies ev bat (some out) = one
    obtain ⟨bat₁, age, packet⟩ := one
    obtain ⟨hwindow, hknown₁, -⟩ := vOgmProcessPerOutif_window hfind hn hone
    obtain ⟨hrouter, hinfo⟩ := (vOgmProcessPerOutif_routes hfind hone).1 addr key (.inl haddr)
    have hfirst : SameRoutes bat bat₁ addr key := ⟨hwindow addr key (.inl haddr), hrouter, hinfo⟩
    simp only [vOgmProcessIfaces, hone]
    exact hfirst.trans (ih hknown₁)

/-- **An OGM of another originator** changes no route, no cost and no window. -/
theorem vOgmProcess_other [Inhabited δ] (msecsToJiffies : ℕ → Jiffies) (bat : BatPriv δ)
    (ev : OgmRecv) {addr : EthAddr} (haddr : addr ≠ ev.ogm.orig) (key : IfKey) :
    SameRoutes bat (vOgmProcess msecsToJiffies bat ev).1 addr key := by
  unfold vOgmProcess
  cases hacc : vOgmAccept ev bat with
  | none =>
    obtain ⟨hrouter, hinfo⟩ := vOgmRejectState_routes ev bat addr key
    exact ⟨vOgmRejectState_window ev bat addr key, hrouter, hinfo⟩
  | some r =>
    obtain ⟨bat₁, orig, hardifNeigh⟩ := r
    obtain ⟨hwindow, orig₁, hfind, hn⟩ := ogmTvlvState_window hacc
    obtain ⟨hrouter, hinfo⟩ := ogmTvlvState_routes hacc addr key
    have hbefore : SameRoutes bat (ogmTvlvState ev bat₁ orig) addr key :=
      ⟨hwindow addr key, hrouter, hinfo⟩
    generalize hone : vOgmProcessPerOutif msecsToJiffies ev (ogmTvlvState ev bat₁ orig) none = one
    obtain ⟨bat₂, age, packet⟩ := one
    obtain ⟨hwindow₂, hknown₂, -⟩ := vOgmProcessPerOutif_window hfind hn hone
    obtain ⟨hrouter₂, hinfo₂⟩ := (vOgmProcessPerOutif_routes hfind hone).1 addr key (.inl haddr)
    have hdefault : SameRoutes (ogmTvlvState ev bat₁ orig) bat₂ addr key :=
      ⟨hwindow₂ addr key (.inl haddr), hrouter₂, hinfo₂⟩
    simp only [hone]
    exact (hbefore.trans hdefault).trans (vOgmProcessIfaces_other _ hknown₂ haddr key)

end Batadv
