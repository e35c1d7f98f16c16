import BatmanAdv.Lib.Threads
import BatmanAdv.Main

set_option relaxedAutoImplicit false
set_option autoImplicit false

/-!
# The selected gateway (`gateway_client.c`)

A node in client mode keeps the list of the gateways of the mesh, and one of them is selected.  An
announcement adds a gateway, changes its bandwidths, or removes it.  An election picks a gateway of
the list and stores it, unless there is a selected one already and nobody has asked for a
reselection.  When a gateway is removed that is selected at that time, a reselection is asked for.

The functions run on any number of threads.  A step is a section of the lock of the list, a walk
through the list, or an access to the selected gateway or to the flag for a reselection.  A pointer
to a gateway is its place in the list of all the gateways that were ever allocated: as long as
somebody holds a reference, the memory is not used again.

## Main definitions

* `Batadv.GwPriv`, `Batadv.GwThread`, `Batadv.gwThreadStep` — the gateways, the threads, and their
  steps.
* `Batadv.GwFollows` — the selected gateway is one of the list, or a reselection has been asked for.
* `Batadv.GwThread.Replaces` — a thread is about to replace the selected gateway.
* `Batadv.GwUndisturbed` — an election is not overtaken by the removal of a gateway.

## Main results

* `Batadv.gwThreadStep_pending` — whoever has to replace a removed gateway does it, or leaves it to
  another.
* `Batadv.gw_election_follows` — runs.
-/

namespace Batadv

/-! ### State -/

/-- `struct batadv_tvlv_gateway_data`, in host order. -/
structure GwData where
  bandwidthDown : U32
  bandwidthUp : U32
deriving DecidableEq, Repr

/-- `struct batadv_gw_node`. -/
structure GwNode where
  origNode : EthAddr
  bandwidthDown : U32
  bandwidthUp : U32
deriving DecidableEq, Repr

/-- What `struct batadv_priv_gw` holds for the selection: the gateways in memory, the places of
those that are linked, the selected one, and the flag for a reselection. -/
structure GwPriv where
  nodes : List GwNode
  gatewayList : List ℕ
  currGw : Option ℕ
  reselect : ℕ
deriving DecidableEq, Repr

/-- There are no gateways yet (`batadv_mesh_init`). -/
def GwPriv.new : GwPriv := ⟨[], [], none, 0⟩

/-- The originator of a gateway. -/
def GwPriv.origOf (gw : GwPriv) (p : ℕ) : Option EthAddr := gw.nodes[p]?.map GwNode.origNode

/-! ### Functions -/

/-- `batadv_gw_node_get`. -/
def gwNodeGet (gw : GwPriv) (origNode : EthAddr) : Option ℕ :=
  gw.gatewayList.find? fun p => gw.origOf p == some origNode

/-- `batadv_gw_node_add`. -/
def gwNodeAdd (alloc : Bool) (gw : GwPriv) (origNode : EthAddr) (gateway : GwData) : GwPriv :=
  if gateway.bandwidthDown = 0 then gw
  else if !alloc then gw
  else
    { gw with
      nodes := gw.nodes ++ [⟨origNode, gateway.bandwidthDown, gateway.bandwidthUp⟩]
      gatewayList := gw.nodes.length :: gw.gatewayList }

/-- `batadv_gw_reselect`. -/
def gwReselect (gw : GwPriv) : GwPriv := { gw with reselect := 1 }

/-- `batadv_gw_select`. -/
def gwSelect (gw : GwPriv) (newGwNode : Option ℕ) : GwPriv := { gw with currGw := newGwNode }

/-- What is called. -/
inductive GwCall
  | nodeUpdate (origNode : EthAddr) (gateway : GwData)
  | election
  | checkElection (origNode : EthAddr)

/-- What a thread does next. -/
inductive GwThread
  /-- `batadv_gw_node_update`: look for the gateway, or add it. -/
  | update (origNode : EthAddr) (gateway : GwData)
  /-- Compare the bandwidths, and write them. -/
  | setBandwidth (gwNode : ℕ) (gateway : GwData)
  /-- Unlink the gateway, if it is linked. -/
  | unlink (gwNode : ℕ)
  /-- Compare the gateway with the selected one. -/
  | unlinked (gwNode : ℕ)
  /-- `batadv_gw_reselect`. -/
  | reselect
  /-- `batadv_gw_election`: read the selected gateway. -/
  | election
  /-- Look whether a reselection was asked for. -/
  | decReselect (currGw : Option ℕ)
  /-- `get_best_gw_node`, and the router to it. -/
  | getBestGwNode (currGw : Option ℕ)
  /-- `batadv_gw_select`. -/
  | select (nextGw : Option ℕ)
  /-- `batadv_gw_check_election`: read the selected gateway. -/
  | checkElection (origNode : EthAddr)
deriving DecidableEq, Repr

/-- Where a call begins. -/
def GwCall.entry : GwCall → GwThread
  | nodeUpdate origNode gateway => .update origNode gateway
  | election => .election
  | checkElection origNode => .checkElection origNode

/-- What a step reads from elsewhere: whether there is memory, the gateway of the list that the
routing algorithm prefers, whether there is a router to it with its information, and whether an
originator is eligible. -/
structure GwInput where
  alloc : Bool
  bestGw : Option ℕ
  router : Bool
  routerIfinfo : Bool
  isEligible : Bool

/-- `get_best_gw_node`: a gateway of the list, or none. -/
def getBestGwNode (input : GwInput) (gw : GwPriv) : Option ℕ :=
  input.bestGw.filter fun p => p ∈ gw.gatewayList

/-- A step of a thread: the memory, and how the thread goes on. -/
def gwThreadStep (input : GwInput) (gw : GwPriv) : GwThread → GwPriv × List GwThread
  | .update origNode gateway =>
    match gwNodeGet gw origNode with
    | none => (gwNodeAdd input.alloc gw origNode gateway, [])
    | some gwNode => (gw, [.setBandwidth gwNode gateway])
  | .setBandwidth gwNode gateway =>
    match gw.nodes[gwNode]? with
    | none => (gw, [])
    | some node =>
      if node.bandwidthDown == gateway.bandwidthDown && node.bandwidthUp == gateway.bandwidthUp then
        (gw, [])
      else
        let node := { node with
          bandwidthDown := gateway.bandwidthDown, bandwidthUp := gateway.bandwidthUp }
        ({ gw with nodes := gw.nodes.set gwNode node },
          if gateway.bandwidthDown = 0 then [.unlink gwNode] else [])
  | .unlink gwNode =>
    (if gwNode ∈ gw.gatewayList then { gw with gatewayList := gw.gatewayList.erase gwNode } else gw,
      [.unlinked gwNode])
  | .unlinked gwNode => (gw, if some gwNode == gw.currGw then [.reselect] else [])
  | .reselect => (gwReselect gw, [])
  | .election => (gw, [.decReselect gw.currGw])
  | .decReselect currGw =>
    -- `batadv_atomic_dec_not_zero`
    if gw.reselect ≠ 0 then ({ gw with reselect := gw.reselect - 1 }, [.getBestGwNode currGw])
    else if currGw.isSome then (gw, [])
    else (gw, [.getBestGwNode currGw])
  | .getBestGwNode currGw =>
    let nextGw := getBestGwNode input gw
    if currGw == nextGw then (gw, [])
    else if nextGw.isSome && !(input.router && input.routerIfinfo) then (gw, [.reselect])
    else (gw, [.select nextGw])
  | .select nextGw => (gwSelect gw nextGw, [])
  | .checkElection origNode =>
    match gw.currGw.bind gw.origOf with
    | none => (gw, [.reselect])
    | some currGwOrig =>
      if currGwOrig == origNode then (gw, [])
      else if !input.isEligible then (gw, [])
      else (gw, [.reselect])

/-! ### What is promised -/

/-- The selected gateway is not in the list any more. -/
def GwPriv.Stale (gw : GwPriv) : Prop := ∃ p, gw.currGw = some p ∧ p ∉ gw.gatewayList

instance (gw : GwPriv) : Decidable gw.Stale :=
  match h : gw.currGw with
  | none => .isFalse fun ⟨p, hp, _⟩ => by rw [h] at hp; cases hp
  | some p => decidable_of_iff (p ∉ gw.gatewayList) <| by
    rw [GwPriv.Stale, h]
    simp

/-- **The list has one gateway of an originator at most.** -/
structure GwListOk (gw : GwPriv) : Prop where
  nodup : gw.gatewayList.Nodup
  oneNode : ∀ p ∈ gw.gatewayList, ∀ q ∈ gw.gatewayList, gw.origOf p = gw.origOf q → p = q

/-- **The selected gateway is one of the list** when no thread runs; or a reselection has been asked
for, and the next election replaces it as soon as there is a router to the gateway that it picks. -/
def GwFollows (s : Threads.State GwPriv GwThread) : Prop :=
  s.threads = [] → s.shared.Stale → s.shared.reselect ≠ 0 ∧
    ∀ input : GwInput, input.router = true → input.routerIfinfo = true →
      let s' := Threads.alone gwThreadStep input 4 { s with threads := [.election] }
      s'.threads = [] ∧ ¬ s'.shared.Stale

/-- Whether a thread is about to replace the selected gateway, or to ask for that. -/
def GwThread.Replaces (gw : GwPriv) : GwThread → Prop
  | unlink p | unlinked p => gw.currGw = some p
  | reselect | getBestGwNode _ | select _ => True
  | _ => False

instance GwThread.Replaces.decidable (gw : GwPriv) : ∀ th : GwThread, Decidable (th.Replaces gw)
  | .unlink p | .unlinked p => inferInstanceAs (Decidable (gw.currGw = some p))
  | .reselect | .getBestGwNode _ | .select _ => .isTrue trivial
  | .update .. | .setBandwidth .. | .election | .decReselect _ | .checkElection _ => .isFalse id

/-- **An election is not overtaken.**  The gateway that it stores is in the list, or the removal has
still to compare it with the selected one, or a reselection has been asked for.  When it finds the
gateway that it has read, and leaves the selected one, this one is in the list; or a reselection has
been asked for, or another thread is about to replace it. -/
def GwUndisturbed (input : GwInput) (gw : GwPriv) (th : GwThread) (others : List GwThread) :
    Prop :=
  match th with
  | .select (some p) =>
    p ∈ gw.gatewayList ∨ .unlink p ∈ others ∨ .unlinked p ∈ others ∨ gw.reselect ≠ 0
  | .getBestGwNode currGw =>
    currGw = getBestGwNode input gw → gw.Stale →
      gw.reselect ≠ 0 ∨ ∃ th ∈ others, th.Replaces gw
  | _ => True

instance GwUndisturbed.decidable (input : GwInput) (gw : GwPriv) (others : List GwThread) :
    ∀ th, Decidable (GwUndisturbed input gw th others)
  | .select (some p) => inferInstanceAs (Decidable
      (p ∈ gw.gatewayList ∨ .unlink p ∈ others ∨ .unlinked p ∈ others ∨ gw.reselect ≠ 0))
  | .getBestGwNode currGw => inferInstanceAs (Decidable
      (currGw = getBestGwNode input gw → gw.Stale →
        gw.reselect ≠ 0 ∨ ∃ th ∈ others, th.Replaces gw))
  | .select none | .update .. | .setBandwidth .. | .unlink _ | .unlinked _ | .reselect
  | .election | .decReselect _ | .checkElection _ => .isTrue trivial

/-! ### The list -/

section List

variable {gw : GwPriv} {threads : List GwThread}

/-- The gateways that a thread holds a reference to. -/
def GwThread.held : GwThread → List ℕ
  | setBandwidth p _ | unlink p | unlinked p => [p]
  | decReselect currGw | getBestGwNode currGw => currGw.toList
  | select nextGw => nextGw.toList
  | _ => []

/-- **The list is in order**, and all the gateways that are known are in memory. -/
structure GwInv (gw : GwPriv) (threads : List GwThread) : Prop where
  list : GwListOk gw
  linked : ∀ p ∈ gw.gatewayList, p < gw.nodes.length
  selected : ∀ p, gw.currGw = some p → p < gw.nodes.length
  held : ∀ th ∈ threads, ∀ p ∈ th.held, p < gw.nodes.length

/-- A thread goes on. -/
lemma GwInv.goOn {th : GwThread} (h : GwInv gw (th :: threads)) {l : List GwThread}
    (hheld : ∀ th' ∈ l, ∀ p ∈ th'.held, p < gw.nodes.length) : GwInv gw (l ++ threads) := by
  refine ⟨h.list, h.linked, h.selected, fun th' hth' => ?_⟩
  rcases List.mem_append.1 hth' with hnew | hold
  · exact hheld th' hnew
  · exact h.held th' (List.mem_cons_of_mem _ hold)

/-- A new gateway is one of an originator that had none. -/
lemma GwInv.nodeAdd (h : GwInv gw threads) {origNode : EthAddr}
    (hnew : gwNodeGet gw origNode = none) (alloc : Bool) (gateway : GwData) :
    GwInv (gwNodeAdd alloc gw origNode gateway) threads := by
  unfold gwNodeAdd
  split_ifs
  · exact h
  · exact h
  have hnode : GwNode.origNode ⟨origNode, gateway.bandwidthDown, gateway.bandwidthUp⟩ =
      origNode := rfl
  have hfresh : gw.nodes.length ∉ gw.gatewayList := fun hmem => lt_irrefl _ (h.linked _ hmem)
  have horig : ∀ p ∈ gw.gatewayList, gw.origOf p ≠ some origNode := fun p hp heq =>
    List.find?_eq_none.1 hnew p hp (beq_iff_eq.2 heq)
  generalize (⟨origNode, gateway.bandwidthDown, gateway.bandwidthUp⟩ : GwNode) = node at hnode ⊢
  have hlen : ∀ p, p < gw.nodes.length → p < (gw.nodes ++ [node]).length :=
    fun p hp => by rw [List.length_append]; exact Nat.lt_add_right _ hp
  generalize hadd : ({ gw with
    nodes := gw.nodes ++ [node]
    gatewayList := gw.nodes.length :: gw.gatewayList } : GwPriv) = gw'
  have hold : ∀ p ∈ gw.gatewayList, gw'.origOf p = gw.origOf p := fun p hp => by
    rw [GwPriv.origOf, ← hadd, GwPriv.origOf]
    dsimp only
    rw [List.getElem?_append_left (h.linked p hp)]
  have hself : gw'.origOf gw.nodes.length = some origNode := by
    rw [GwPriv.origOf, ← hadd, ← hnode]
    simp
  refine ⟨GwListOk.mk ?_ ?_, ?_, ?_, ?_⟩
  · rw [← hadd]
    exact List.nodup_cons.2 ⟨hfresh, h.list.nodup⟩
  · have hlist : gw'.gatewayList = gw.nodes.length :: gw.gatewayList := by rw [← hadd]
    rw [hlist]
    intro p hp q hq heq
    rcases List.mem_cons.1 hp with rfl | hp <;> rcases List.mem_cons.1 hq with rfl | hq
    · rfl
    · rw [hself, hold q hq] at heq
      exact absurd heq.symm (horig q hq)
    · rw [hself, hold p hp] at heq
      exact absurd heq (horig p hp)
    · rw [hold p hp, hold q hq] at heq
      exact h.list.oneNode p hp q hq heq
  · rw [← hadd]
    intro p hp
    rcases List.mem_cons.1 hp with rfl | hp
    · simp
    · exact hlen p (h.linked p hp)
  · rw [← hadd]
    exact fun p hp => hlen p (h.selected p hp)
  · rw [← hadd]
    exact fun th hth p hp => hlen p (h.held th hth p hp)

/-- Writing bandwidths changes no originator. -/
lemma GwInv.setNode (h : GwInv gw threads) {p : ℕ} {a b : GwNode}
    (hnode : gw.nodes[p]? = some a) (horig : b.origNode = a.origNode) :
    GwInv { gw with nodes := gw.nodes.set p b } threads := by
  have hsame : ∀ q, GwPriv.origOf { gw with nodes := gw.nodes.set p b } q = gw.origOf q := by
    intro q
    rw [GwPriv.origOf, GwPriv.origOf]
    dsimp only
    rw [List.getElem?_set]
    split_ifs with hpq hlt
    · rw [← hpq, hnode, Option.map_some, Option.map_some, horig]
    · rw [← hpq, List.getElem?_eq_none (not_lt.1 hlt)]
    · rfl
  refine ⟨⟨h.list.nodup, fun q hq r hr heq => ?_⟩, ?_, ?_, ?_⟩
  · rw [hsame, hsame] at heq
    exact h.list.oneNode q hq r hr heq
  · simpa using h.linked
  · simpa using h.selected
  · simpa using h.held

/-- **A step keeps the list in order.** -/
lemma gwThreadStep_inv (input : GwInput) {th : GwThread} (h : GwInv gw (th :: threads)) :
    GwInv (gwThreadStep input gw th).1 ((gwThreadStep input gw th).2 ++ threads) := by
  have hself : ∀ p ∈ th.held, p < gw.nodes.length := h.held th List.mem_cons_self
  have hrest : GwInv gw threads := h.goOn (l := []) nofun
  cases th with
  | update origNode gateway =>
    rw [gwThreadStep]
    cases hget : gwNodeGet gw origNode with
    | none => exact hrest.nodeAdd hget input.alloc gateway
    | some p =>
      refine h.goOn fun th' hth' q hq => ?_
      rw [List.mem_singleton.1 hth'] at hq
      rw [List.mem_singleton.1 hq]
      exact h.linked p (List.mem_of_find?_eq_some hget)
  | setBandwidth p gateway =>
    rw [gwThreadStep]
    cases hnode : gw.nodes[p]? with
    | none => exact hrest
    | some node =>
      dsimp only
      split
      · exact hrest
      · have hset := (h.setNode (b := { node with
          bandwidthDown := gateway.bandwidthDown, bandwidthUp := gateway.bandwidthUp }) hnode rfl)
        refine hset.goOn fun th' hth' q hq => ?_
        split at hth'
        · rw [List.mem_singleton.1 hth'] at hq
          rw [List.length_set]
          exact hself q hq
        · cases hth'
  | unlink p =>
    rw [gwThreadStep]
    have hheld : ∀ th' ∈ [GwThread.unlinked p], ∀ q ∈ th'.held, q < gw.nodes.length :=
      fun th' hth' q hq => by
        rw [List.mem_singleton.1 hth'] at hq
        exact hself q hq
    split
    · have hgoOn := h.goOn hheld
      exact ⟨⟨h.list.nodup.erase p, fun q hq r hr => h.list.oneNode q (List.mem_of_mem_erase hq) r
        (List.mem_of_mem_erase hr)⟩, fun q hq => h.linked q (List.mem_of_mem_erase hq), h.selected,
        hgoOn.held⟩
    · exact h.goOn hheld
  | unlinked p =>
    rw [gwThreadStep]
    refine h.goOn fun th' hth' q hq => ?_
    split at hth'
    · rw [List.mem_singleton.1 hth'] at hq
      cases hq
    · cases hth'
  | reselect => exact ⟨⟨h.list.nodup, h.list.oneNode⟩, h.linked, h.selected, hrest.held⟩
  | election =>
    refine h.goOn fun th' hth' q hq => ?_
    rw [List.mem_singleton.1 hth'] at hq
    exact h.selected q (Option.mem_toList.1 hq)
  | decReselect currGw =>
    rw [gwThreadStep]
    have hgoOn : GwInv gw ([.getBestGwNode currGw] ++ threads) :=
      h.goOn fun th' hth' q hq => by
        rw [List.mem_singleton.1 hth'] at hq
        exact hself q hq
    split
    · exact ⟨⟨h.list.nodup, h.list.oneNode⟩, h.linked, h.selected, hgoOn.held⟩
    split
    · exact hrest
    · exact hgoOn
  | getBestGwNode currGw =>
    rw [gwThreadStep]
    split
    · exact hrest
    split
    · refine h.goOn fun th' hth' q hq => ?_
      rw [List.mem_singleton.1 hth'] at hq
      cases hq
    · refine h.goOn fun th' hth' q hq => ?_
      rw [List.mem_singleton.1 hth'] at hq
      have hbest := Option.mem_filter_iff.1 (Option.mem_toList.1 hq)
      exact h.linked q (by simpa using hbest.2)
  | select nextGw =>
    exact ⟨⟨h.list.nodup, h.list.oneNode⟩, h.linked,
      fun p hp => hself p (Option.mem_toList.2 hp), hrest.held⟩
  | checkElection origNode =>
    have hgoOn : GwInv gw ([.reselect] ++ threads) := h.goOn fun th' hth' q hq => by
      rw [List.mem_singleton.1 hth'] at hq
      cases hq
    rw [gwThreadStep]
    cases gw.currGw.bind gw.origOf with
    | none => exact hgoOn
    | some currGwOrig =>
      dsimp only
      split
      · exact hrest
      split
      · exact hrest
      · exact hgoOn

end List

/-! ### The selected gateway -/

section Selected

variable {gw : GwPriv} {th : GwThread} {threads : List GwThread}

/-- **A gateway that was removed is going to be replaced.** -/
def GwPending (gw : GwPriv) (threads : List GwThread) : Prop :=
  gw.Stale → gw.reselect ≠ 0 ∨ ∃ th ∈ threads, th.Replaces gw

/-- Another thread is about to replace the gateway, still. -/
lemma GwPending.of_others {gw' : GwPriv} {ths : List GwThread} (h : GwPending gw (th :: threads))
    (hstale : gw'.Stale → gw.Stale) (hreselect : gw.reselect ≠ 0 → gw'.reselect ≠ 0)
    (hothers : ∀ th' ∈ threads, th'.Replaces gw → th'.Replaces gw')
    (hself : gw'.Stale → th.Replaces gw → ∃ th' ∈ ths, th'.Replaces gw') :
    GwPending gw' (ths ++ threads) := by
  intro hgw'
  rcases h (hstale hgw') with hset | ⟨th', hth', hreplaces⟩
  · exact .inl (hreselect hset)
  rcases List.mem_cons.1 hth' with rfl | hmem
  · obtain ⟨th'', hth'', hreplaces'⟩ := hself hgw' hreplaces
    exact .inr ⟨th'', List.mem_append_left _ hth'', hreplaces'⟩
  · exact .inr ⟨th', List.mem_append_right _ hmem, hothers th' hmem hreplaces⟩

/-- A thread that would not replace the gateway goes on. -/
lemma GwPending.goOn (h : GwPending gw (th :: threads)) (hself : ¬ th.Replaces gw)
    (ths : List GwThread) : GwPending gw (ths ++ threads) :=
  h.of_others id id (fun _ _ => id) fun _ hreplaces => absurd hreplaces hself

/-- Somebody replaces the gateway in the new state. -/
lemma GwPending.of_mem {ths : List GwThread} (hth : th ∈ ths) (hreplaces : th.Replaces gw) :
    GwPending gw (ths ++ threads) :=
  fun _ => .inr ⟨th, List.mem_append_left _ hth, hreplaces⟩

/-- **Who has to replace a removed gateway** does it, or leaves it to another.

**Proof sketch.** By the steps.  The removal of a gateway compares it with the selected one after it
is unlinked, and then asks for a reselection; an election that answers such a request stores another
gateway, asks again if there is no router to it, or finds the one that it has read. -/
theorem gwThreadStep_pending {input : GwInput} (h : GwPending gw (th :: threads))
    (hundisturbed : GwUndisturbed input gw th threads) :
    GwPending (gwThreadStep input gw th).1 ((gwThreadStep input gw th).2 ++ threads) := by
  cases th with
  | update origNode gateway =>
    rw [gwThreadStep]
    cases hget : gwNodeGet gw origNode with
    | some p => exact h.goOn id _
    | none =>
      unfold gwNodeAdd
      dsimp only
      split_ifs
      · exact h.goOn id _
      · exact h.goOn id _
      · refine h.of_others ?_ id (fun th' _ hreplaces => ?_) fun _ hreplaces => hreplaces.elim
        · rintro ⟨p, hcurr, hp⟩
          exact ⟨p, hcurr, fun hmem => hp (List.mem_cons_of_mem _ hmem)⟩
        · cases th' <;> exact hreplaces
  | setBandwidth p gateway =>
    rw [gwThreadStep]
    cases gw.nodes[p]? with
    | none => exact h.goOn id _
    | some node =>
      dsimp only
      split
      · exact h.goOn id _
      · refine h.of_others id id (fun th' _ hreplaces => ?_) fun _ hreplaces => hreplaces.elim
        cases th' <;> exact hreplaces
  | unlink p =>
    rw [gwThreadStep]
    by_cases hself : gw.currGw = some p
    · refine .of_mem (List.mem_singleton.2 rfl) ?_
      split_ifs <;> exact hself
    split
    · refine h.of_others ?_ id (fun th' _ hreplaces => ?_) fun _ hreplaces => absurd hreplaces hself
      · rintro ⟨q, hcurr, hq⟩
        refine ⟨q, hcurr, fun hmem => hq ((List.mem_erase_of_ne ?_).2 hmem)⟩
        rintro rfl
        exact hself hcurr
      · cases th' <;> exact hreplaces
    · exact h.goOn hself _
  | unlinked p =>
    rw [gwThreadStep]
    split
    · exact .of_mem (List.mem_singleton.2 rfl) trivial
    · next hne =>
      exact h.goOn (fun hcurr => hne (by rw [hcurr]; exact beq_self_eq_true _)) _
  | reselect => exact fun _ => .inl Nat.one_ne_zero
  | election => exact h.goOn id _
  | decReselect currGw =>
    rw [gwThreadStep]
    split
    · -- the request is answered
      exact .of_mem (List.mem_singleton.2 rfl) trivial
    split
    · exact h.goOn id _
    · exact h.goOn id _
  | getBestGwNode currGw =>
    rw [gwThreadStep]
    split
    · next hsame => exact hundisturbed (beq_iff_eq.1 hsame)
    split
    · exact .of_mem (List.mem_singleton.2 rfl) trivial
    · exact .of_mem (List.mem_singleton.2 rfl) trivial
  | select nextGw =>
    rintro ⟨p, hcurr, hp⟩
    have hnext : nextGw = some p := hcurr
    rw [hnext] at hundisturbed
    rcases hundisturbed with hmem | hunlink | hunlinked | hset
    · exact absurd hmem hp
    · exact .inr ⟨_, hunlink, hcurr⟩
    · exact .inr ⟨_, hunlinked, hcurr⟩
    · exact .inl hset
  | checkElection origNode =>
    rw [gwThreadStep]
    cases gw.currGw.bind gw.origOf with
    | none => exact .of_mem (List.mem_singleton.2 rfl) trivial
    | some currGwOrig =>
      dsimp only
      split
      · exact h.goOn id _
      split
      · exact h.goOn id _
      · exact .of_mem (List.mem_singleton.2 rfl) trivial

/-- **The next election replaces the gateway** that is not in the list. -/
lemma gwElection_replaces (hstale : gw.Stale) (hset : gw.reselect ≠ 0) {input : GwInput}
    (hrouter : input.router = true) (hifinfo : input.routerIfinfo = true) :
    let s := Threads.alone gwThreadStep input 4 ⟨gw, [.election]⟩
    s.threads = [] ∧ ¬ s.shared.Stale := by
  obtain ⟨p, hcurr, hp⟩ := hstale
  have hmem : ∀ q, getBestGwNode input gw = some q → q ∈ gw.gatewayList := fun q hq => by
    simpa using (Option.mem_filter_iff.1 hq).2
  have hne : (some p == getBestGwNode input gw) = false := by
    rw [beq_eq_false_iff_ne]
    exact fun heq => hp (hmem p heq.symm)
  have hdec : gwThreadStep input gw (.decReselect gw.currGw) =
      ({ gw with reselect := gw.reselect - 1 }, [.getBestGwNode (some p)]) := by
    rw [gwThreadStep, if_pos hset, hcurr]
  have hpick : gwThreadStep input { gw with reselect := gw.reselect - 1 }
      (.getBestGwNode (some p)) =
        ({ gw with reselect := gw.reselect - 1 }, [.select (getBestGwNode input gw)]) := by
    have hbest : getBestGwNode input { gw with reselect := gw.reselect - 1 } =
        getBestGwNode input gw := rfl
    rw [gwThreadStep, hbest, hne, hrouter, hifinfo]
    simp
  have halone : Threads.alone gwThreadStep input 4 ⟨gw, [.election]⟩ =
      ⟨{ gw with reselect := gw.reselect - 1, currGw := getBestGwNode input gw }, []⟩ := by
    have hread : gwThreadStep input gw .election = (gw, [.decReselect gw.currGw]) := rfl
    simp only [Threads.alone, hread, hdec, hpick, List.append_nil]
    rfl
  rw [halone]
  refine ⟨rfl, ?_⟩
  rintro ⟨q, hq, hnot⟩
  exact hnot (hmem q hq)

/-- **Gateways over a run**, with the steps of the threads in any order.  The list has one gateway
of an originator at most.  If no election is overtaken by the removal of a gateway, the selected
gateway is one of the list whenever no thread runs, or else it is going to be replaced.

**Proof sketch.** In any state somebody is about to replace a selected gateway that is not in the
list, or a reselection has been asked for; when no thread runs, the latter is left. -/
theorem gw_election_follows (es : List (Threads.Event GwCall GwInput)) :
    (∀ s ∈ Run.states (Threads.next GwCall.entry gwThreadStep) ⟨.new, []⟩ es,
      GwListOk s.shared) ∧
    (Threads.AllRuns GwCall.entry gwThreadStep GwUndisturbed ⟨.new, []⟩ es →
      ∀ s ∈ Run.states (Threads.next GwCall.entry gwThreadStep) ⟨.new, []⟩ es, GwFollows s) := by
  have hnew : GwInv .new [] := ⟨⟨List.nodup_nil, nofun⟩, nofun, nofun, nofun⟩
  have hperm : ∀ gw l l', l.Perm l' → GwInv gw l → GwInv gw l' := fun gw l l' hl h =>
    ⟨h.list, h.linked, h.selected, fun th hth => h.held th (hl.mem_iff.2 hth)⟩
  have hstart : ∀ gw l (a : GwCall), GwInv gw l → GwInv gw (a.entry :: l) := fun gw l a h =>
    ⟨h.list, h.linked, h.selected, fun th hth => by
      rcases List.mem_cons.1 hth with rfl | hth
      · cases a <;> exact nofun
      · exact h.held th hth⟩
  constructor
  · intro s hs
    have hinv := Threads.forall_mem_states (P := fun _ _ _ _ => True) GwInv hperm hstart
      (fun input gw th l h _ => gwThreadStep_inv input h) hnew
      (.of_forall (fun _ _ _ _ => trivial) es) s hs
    exact hinv.list
  · intro hundisturbed s hs hidle hstale
    obtain ⟨-, hpending⟩ := Threads.forall_mem_states
      (fun gw l => GwInv gw l ∧ GwPending gw l)
      (fun gw l l' hl h => ⟨hperm gw l l' hl h.1, fun hst => (h.2 hst).imp id
        fun ⟨th, hth, hreplaces⟩ => ⟨th, hl.mem_iff.1 hth, hreplaces⟩⟩)
      (fun gw l a h => ⟨hstart gw l a h.1, fun hst => (h.2 hst).imp id
        fun ⟨th, hth, hreplaces⟩ => ⟨th, List.mem_cons_of_mem _ hth, hreplaces⟩⟩)
      (fun input gw th l h hstep =>
        ⟨gwThreadStep_inv input h.1, gwThreadStep_pending h.2 hstep⟩)
      ⟨hnew, fun ⟨_, hcurr, _⟩ => nomatch hcurr⟩ hundisturbed s hs
    rcases hpending hstale with hset | ⟨th, hth, -⟩
    · exact ⟨hset, fun input hrouter hifinfo => gwElection_replaces hstale hset hrouter hifinfo⟩
    · rw [hidle] at hth
      cases hth

/-- What the steps read: there is memory, and the first gateway is the best. -/
def firstGateway : GwInput := ⟨true, some 0, true, true, true⟩

/-- The same, but the second gateway is the best. -/
def secondGateway : GwInput := { firstGateway with bestGw := some 1 }

/-- A gateway is announced, and two elections read that none is selected.  The second one selects
the gateway, which is removed then, and another one is announced.  The first election answers the
request for a reselection and selects the other one, which is removed, too. -/
def gatewayRemovedEvents : List (Threads.Event GwCall GwInput) :=
  [.start (.nodeUpdate 0x020000000001 ⟨100, 20⟩), .run 0 firstGateway,
    .start .election, .run 0 firstGateway,
    .start .election, .run 0 firstGateway, .run 0 firstGateway, .run 0 firstGateway,
    .run 0 firstGateway,
    .start (.nodeUpdate 0x020000000001 ⟨0, 0⟩), .run 0 firstGateway, .run 0 firstGateway,
    .run 0 firstGateway, .run 0 firstGateway, .run 0 firstGateway,
    .start (.nodeUpdate 0x020000000002 ⟨50, 10⟩), .run 0 secondGateway,
    .run 0 secondGateway, .run 0 secondGateway, .run 0 secondGateway,
    .start (.nodeUpdate 0x020000000002 ⟨0, 0⟩), .run 0 secondGateway, .run 0 secondGateway,
    .run 0 secondGateway, .run 0 secondGateway, .run 0 secondGateway]

/-- A reselection has been asked for, at the end. -/
theorem gw_election_follows_removed :
    let s := Run.final (Threads.next GwCall.entry gwThreadStep) ⟨.new, []⟩ gatewayRemovedEvents
    s.threads = [] ∧ s.shared.currGw = some 1 ∧ s.shared.gatewayList = [] ∧ GwFollows s :=
  ⟨by decide, by decide, by decide,
    (gw_election_follows gatewayRemovedEvents).2 (by decide) _ (Run.final_mem_states _ _)⟩

/-- The gateway is removed after an election has picked it and before it is stored. -/
def gatewayOvertakenEvents : List (Threads.Event GwCall GwInput) :=
  [.start (.nodeUpdate 0x020000000001 ⟨100, 20⟩), .run 0 firstGateway,
    .start .election, .run 0 firstGateway, .run 0 firstGateway, .run 0 firstGateway,
    .start (.nodeUpdate 0x020000000001 ⟨0, 0⟩), .run 0 firstGateway, .run 0 firstGateway,
    .run 0 firstGateway, .run 0 firstGateway,
    .run 0 firstGateway]

/-- No thread runs any more, a gateway is selected that is not in the list, and nobody has asked for
a reselection. -/
theorem gw_election_overtaken :
    let s := Run.final (Threads.next GwCall.entry gwThreadStep) ⟨.new, []⟩ gatewayOvertakenEvents
    s.threads = [] ∧ s.shared.currGw = some 0 ∧ s.shared.gatewayList = [] ∧
      s.shared.reselect = 0 := by
  decide

end Selected

end Batadv
