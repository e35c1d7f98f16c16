import BatmanAdv.TranslationTable.Accounting

set_option relaxedAutoImplicit false
set_option autoImplicit false

/-!
# Applying the changes of an originator (`translation-table.c`)

The changes that an originator announces, or the clients of its whole table, are applied one by
one.  At a client that cannot be added `_batadv_tt_update_changes` stops, "without committing the
ttvn change", as its comment says.  It returns nothing, though, and both of its callers commit the
version afterwards, and one of them stores the changes.

Here every change comes with what the call for it reads, so that each allocation may fail on its
own.  `Batadv.ttUpdateChanges` and `Batadv.ttFillGtable`, which OGMs and responses use, are the case
in which all calls read the same.

## Main definitions

* `Batadv.ttUpdateChange`, `Batadv.ttUpdateChangesTurns` — the loop of `_batadv_tt_update_changes`.
* `Batadv.TtTurn.Storable` — there is memory for a client that is not known yet.
* `Batadv.TtNotCommitted` — neither the version nor the changes were committed.

## Main results

* `Batadv.ttUpdateChangesTurns_saved` — the loop itself commits nothing.
* `Batadv.tt_failed_changes_iff` — when nothing is committed after a client could not be added.
-/

namespace Batadv

/-! ### The loop -/

/-- A turn of the loop: a change, and what the call for it reads. -/
structure TtTurn where
  env : TtEnv
  change : TtChange

/-- One turn of the loop of `_batadv_tt_update_changes`: the tables, and whether the loop goes
on. -/
def ttUpdateChange (orig : EthAddr) (ttvn : U8) (tt : TtPriv) (turn : TtTurn) : TtPriv × Bool :=
  let c := turn.change
  if c.isDel then
    let roams := hasFlag c.flags (TT_CLIENT_ROAM.setWidth 8)
    (ttGlobalDel turn.env tt orig c.addr c.vid roams, true)
  else ttGlobalAdd turn.env tt orig c.addr c.vid (c.flags.setWidth 16) ttvn

/-- `_batadv_tt_update_changes`: the tables, and whether all clients could be added. -/
def ttUpdateChangesTurns (orig : EthAddr) (ttvn : U8) : TtPriv → List TtTurn → TtPriv × Bool
  | tt, [] => (ttOrigUpdate tt orig fun o => { o with hasTt := true }, true)
  | tt, turn :: turns =>
    match ttUpdateChange orig ttvn tt turn with
    | (tt, true) => ttUpdateChangesTurns orig ttvn tt turns
    | (tt, false) => (tt, false)

/-- `batadv_tt_fill_gtable`. -/
def ttFillGtableTurns (env : TtEnv) (tt : TtPriv) (turns : List TtTurn) (ttvn : U8)
    (respSrc : EthAddr) : TtPriv :=
  let tt := ttGlobalDelOrig env tt respSrc none
  let tt := (ttUpdateChangesTurns respSrc ttvn tt turns).1
  ttOrigUpdate tt respSrc fun o => { o with ttBuff := none, ttBuffLen := 0, lastTtvn := ttvn }

/-- `batadv_tt_update_changes`. -/
def ttUpdateChangesCommit (env : TtEnv) (tt : TtPriv) (orig : EthAddr) (ttvn : U8)
    (turns : List TtTurn) : TtPriv :=
  let tt := (ttUpdateChangesTurns orig ttvn tt turns).1
  ttOrigUpdate tt orig fun o =>
    { ttSaveOrigBuffer env (turns.map TtTurn.change) o with lastTtvn := ttvn }

/-- The turns of a loop whose calls all read the same. -/
def ttTurns (env : TtEnv) (changes : List TtChange) : List TtTurn := changes.map (TtTurn.mk env)

/-- The loop with calls that all read the same. -/
lemma ttUpdateChangesLoop_eq (env : TtEnv) (orig : EthAddr) (ttvn : U8) (tt : TtPriv)
    (changes : List TtChange) :
    ttUpdateChangesLoop env orig ttvn tt changes =
      (ttUpdateChangesTurns orig ttvn tt (ttTurns env changes)).1 := by
  induction changes generalizing tt with
  | nil => rfl
  | cons c cs ih =>
    rw [ttTurns, List.map_cons]
    unfold ttUpdateChangesLoop ttUpdateChangesTurns ttUpdateChange
    dsimp only
    split_ifs with hdel
    · exact ih _
    · rcases ttGlobalAdd env tt orig c.addr c.vid (c.flags.setWidth 16) ttvn with ⟨tt', added⟩
      cases added with
      | true => exact ih tt'
      | false => rfl

lemma ttUpdateChanges_eq (env : TtEnv) (tt : TtPriv) (orig : EthAddr) (ttvn : U8)
    (changes : List TtChange) :
    ttUpdateChanges env tt orig ttvn changes =
      ttUpdateChangesCommit env tt orig ttvn (ttTurns env changes) := by
  have hchanges : (ttTurns env changes).map TtTurn.change = changes := by
    rw [ttTurns, List.map_map]
    exact List.map_id changes
  rw [ttUpdateChangesCommit, hchanges, ← ttUpdateChangesLoop_eq]
  rfl

lemma ttFillGtable_eq (env : TtEnv) (tt : TtPriv) (changes : List TtChange) (ttvn : U8)
    (respSrc : EthAddr) :
    ttFillGtable env tt changes ttvn respSrc =
      ttFillGtableTurns env tt (ttTurns env changes) ttvn respSrc := by
  rw [ttFillGtableTurns, ← ttUpdateChangesLoop_eq]
  rfl

/-! ### Which changes can be applied -/

/-- The change can be applied: it deletes, the originator is a backbone gateway of the VLAN, or the
client is known already or there is memory for it. -/
def TtTurn.Storable (orig : EthAddr) (tt : TtPriv) (turn : TtTurn) : Prop :=
  turn.change.isDel = true ∨ turn.env.isBackboneGwOrig orig turn.change.vid = true ∨
    (ttGlobalHashFind tt turn.change.addr turn.change.vid).isSome = true ∨
    turn.env.allocEntry turn.change.addr turn.change.vid = true

instance (orig : EthAddr) (tt : TtPriv) (turn : TtTurn) : Decidable (turn.Storable orig tt) :=
  inferInstanceAs (Decidable (_ ∨ _ ∨ _ ∨ _))

/-- Every change can be applied, in the tables that the changes before it leave. -/
def TtAllStorable (orig : EthAddr) (ttvn : U8) : TtPriv → List TtTurn → Prop :=
  Run.AllSteps (fun tt turn => (ttUpdateChange orig ttvn tt turn).1)
    fun tt turn => turn.Storable orig tt

/-- A received change never says that a client is a temporary one. -/
lemma hasFlag_temp_setWidth (flags : U8) :
    hasFlag (flags.setWidth 16) TT_CLIENT_TEMP = false := by
  have hbit : TT_CLIENT_TEMP = BitVec.twoPow 16 11 := by decide
  rw [hasFlag, hbit, BitVec.and_twoPow, BitVec.getLsbD_setWidth,
    BitVec.getLsbD_of_ge flags 11 le_add_self]
  rfl

/-- When a change can be applied. -/
lemma ttUpdateChange_snd (orig : EthAddr) (ttvn : U8) (tt : TtPriv) (turn : TtTurn) :
    (ttUpdateChange orig ttvn tt turn).2 = true ↔ turn.Storable orig tt := by
  obtain ⟨env, c⟩ := turn
  unfold ttUpdateChange TtTurn.Storable ttGlobalAdd
  dsimp only
  rw [hasFlag_temp_setWidth]
  cases hdel : c.isDel with
  | true => simp
  | false =>
    cases hbackbone : env.isBackboneGwOrig orig c.vid with
    | true => simp
    | false =>
      cases hfound : ttGlobalHashFind tt c.addr c.vid with
      | some e => simp
      | none =>
        cases halloc : env.allocEntry c.addr c.vid with
        | true => simp
        | false => simp

/-- When the loop comes to its end. -/
lemma ttUpdateChangesTurns_snd (orig : EthAddr) (ttvn : U8) (tt : TtPriv) (turns : List TtTurn) :
    (ttUpdateChangesTurns orig ttvn tt turns).2 = true ↔ TtAllStorable orig ttvn tt turns := by
  induction turns generalizing tt with
  | nil => simp [ttUpdateChangesTurns, TtAllStorable]
  | cons turn turns ih =>
    have hturn := ttUpdateChange_snd orig ttvn tt turn
    unfold TtAllStorable at ih ⊢
    rw [Run.allSteps_cons, ← hturn]
    unfold ttUpdateChangesTurns
    rcases ttUpdateChange orig ttvn tt turn with ⟨tt', added⟩
    cases added with
    | true => simpa using ih tt'
    | false => simp

/-! ### What is committed -/

/-- What a node has committed of an originator: the version of its table, and its last changes. -/
def TtOrigNode.saved (o : TtOrigNode) : EthAddr × U8 × Option (List TtChange) × U16 :=
  (o.orig, o.lastTtvn, o.ttBuff, o.ttBuffLen)

/-- What a node has committed of all originators. -/
def TtPriv.saved (tt : TtPriv) : List (EthAddr × U8 × Option (List TtChange) × U16) :=
  tt.origHash.map TtOrigNode.saved

@[simp] lemma saved_ttGlobalPut (tt : TtPriv) (e : TtGlobalEntry) :
    (ttGlobalPut tt e).saved = tt.saved := rfl

@[simp] lemma saved_ttGlobalFree (tt : TtPriv) (e : TtGlobalEntry) :
    (ttGlobalFree tt e).saved = tt.saved := rfl

/-- Writing to an originator commits nothing if it leaves the version and the changes. -/
lemma saved_ttOrigUpdate (tt : TtPriv) (orig : EthAddr) {f : TtOrigNode → TtOrigNode}
    (hf : ∀ o, (f o).saved = o.saved) : (ttOrigUpdate tt orig f).saved = tt.saved := by
  unfold TtPriv.saved ttOrigUpdate
  rw [List.map_map]
  refine List.map_congr_left fun o _ => ?_
  dsimp only [Function.comp_apply]
  split_ifs
  · exact hf o
  · rfl

lemma saved_origNodeSizeMod (alloc : Bool) (vid : U16) (v : ℤ) (o : TtOrigNode) :
    (origNodeSizeMod alloc vid v o).saved = o.saved := by
  unfold origNodeSizeMod origNodeVlanNew
  split_ifs <;> rfl

@[simp] lemma saved_ttGlobalSizeMod (env : TtEnv) (tt : TtPriv) (orig : EthAddr) (vid : U16)
    (v : ℤ) : (ttGlobalSizeMod env tt orig vid v).saved = tt.saved :=
  saved_ttOrigUpdate tt orig (saved_origNodeSizeMod _ vid v)

@[simp] lemma saved_ttGlobalDelOrigEntries (env : TtEnv) (p : EthAddr → Bool) (tt : TtPriv)
    (e : TtGlobalEntry) : (ttGlobalDelOrigEntries env p tt e).1.saved = tt.saved := by
  unfold ttGlobalDelOrigEntries
  dsimp only
  induction e.origList.filter (fun o => p o.origNode) generalizing tt with
  | nil => rfl
  | cons o l ih => rw [List.foldl_cons, ih, saved_ttGlobalSizeMod]

@[simp] lemma saved_ttGlobalDelOrigList (env : TtEnv) (tt : TtPriv) (e : TtGlobalEntry) :
    (ttGlobalDelOrigList env tt e).1.saved = tt.saved :=
  saved_ttGlobalDelOrigEntries env _ tt e

@[simp] lemma saved_ttGlobalDelOrigNode (env : TtEnv) (tt : TtPriv) (e : TtGlobalEntry)
    (orig : EthAddr) : (ttGlobalDelOrigNode env tt e orig).1.saved = tt.saved :=
  saved_ttGlobalDelOrigEntries env _ tt e

@[simp] lemma saved_ttGlobalAddRemoveLocal (env : TtEnv) (tt : TtPriv) (e : TtGlobalEntry)
    (flags : U16) : (ttGlobalAddRemoveLocal env tt e flags).saved = tt.saved := by
  unfold ttGlobalAddRemoveLocal
  split_ifs <;> rfl

@[simp] lemma saved_ttGlobalAddOrigEntry (env : TtEnv) (tt : TtPriv) (e : TtGlobalEntry)
    (orig : EthAddr) (flags : U16) (ttvn : U8) :
    (ttGlobalAddOrigEntry env tt e orig flags ttvn).saved = tt.saved := by
  unfold ttGlobalAddOrigEntry ttGlobalOrigEntryAdd
  cases e.origEntryFind orig with
  | some o => simp
  | none =>
    split_ifs
    · simp
    · simp

@[simp] lemma saved_ttGlobalAddExisting (env : TtEnv) (tt : TtPriv) (e : TtGlobalEntry)
    (flags : U16) : (ttGlobalAddExisting env tt e flags).1.saved = tt.saved := by
  unfold ttGlobalAddExisting
  by_cases htemp : hasFlag e.flags TT_CLIENT_TEMP = true
  · rw [if_pos htemp]
    dsimp only
    split_ifs <;> simp
  · rw [if_neg htemp]
    dsimp only
    split_ifs <;> simp

/-- Adding a client commits nothing. -/
lemma saved_ttGlobalAdd (env : TtEnv) (tt : TtPriv) (orig addr : EthAddr) (vid : U16)
    (flags : U16) (ttvn : U8) :
    (ttGlobalAdd env tt orig addr vid flags ttvn).1.saved = tt.saved := by
  unfold ttGlobalAdd
  cases ttGlobalHashFind tt addr vid with
  | none =>
    dsimp only
    split_ifs
    · rfl
    · rfl
    · rfl
    · dsimp only
      rw [saved_ttGlobalAddOrigEntry]
      rfl
  | some e =>
    dsimp only
    split_ifs <;> simp

/-- Deleting a client commits nothing. -/
lemma saved_ttGlobalDel (env : TtEnv) (tt : TtPriv) (orig addr : EthAddr) (vid : U16)
    (roaming : Bool) : (ttGlobalDel env tt orig addr vid roaming).saved = tt.saved := by
  unfold ttGlobalDel
  cases ttGlobalHashFind tt addr vid with
  | none => rfl
  | some e =>
    unfold ttGlobalDelRoaming
    dsimp only
    split_ifs <;> simp

/-- Deleting all clients of an originator commits nothing. -/
lemma saved_ttGlobalDelOrig (env : TtEnv) (tt : TtPriv) (orig : EthAddr)
    (matchVid : Option U16) : (ttGlobalDelOrig env tt orig matchVid).saved = tt.saved := by
  unfold ttGlobalDelOrig
  refine (saved_ttOrigUpdate _ orig (f := fun o => { o with hasTt := false }) fun o => rfl).trans ?_
  change (List.foldl _ tt tt.globalHash).saved = tt.saved
  generalize hhash : tt.globalHash = globalHash
  clear hhash
  induction globalHash generalizing tt with
  | nil => rfl
  | cons e globalHash ih =>
    rw [List.foldl_cons, ih]
    split_ifs
    · exact saved_ttGlobalDelOrigNode env tt e orig
    · rfl

/-- **The loop itself commits nothing**, whether it stops early or not. -/
theorem ttUpdateChangesTurns_saved (orig : EthAddr) (ttvn : U8) (tt : TtPriv)
    (turns : List TtTurn) : (ttUpdateChangesTurns orig ttvn tt turns).1.saved = tt.saved := by
  induction turns generalizing tt with
  | nil => exact saved_ttOrigUpdate tt orig fun o => rfl
  | cons turn turns ih =>
    have hturn : (ttUpdateChange orig ttvn tt turn).1.saved = tt.saved := by
      unfold ttUpdateChange
      dsimp only
      split_ifs
      · exact saved_ttGlobalDel _ _ _ _ _ _
      · exact saved_ttGlobalAdd _ _ _ _ _ _ _
    unfold ttUpdateChangesTurns
    generalize ttUpdateChange orig ttvn tt turn = after at hturn
    obtain ⟨tt', added⟩ := after
    cases added with
    | true => exact (ih tt').trans hturn
    | false => exact hturn

/-- An originator is found with what was committed of it. -/
lemma ttOrigHashFind_of_saved {tt tt' : TtPriv} (h : tt'.saved = tt.saved) {orig : EthAddr}
    {o : TtOrigNode} (ho : ttOrigHashFind tt orig = some o) :
    ∃ o', ttOrigHashFind tt' orig = some o' ∧ o'.saved = o.saved := by
  have hfind (tt : TtPriv) : (ttOrigHashFind tt orig).map TtOrigNode.saved =
      tt.saved.find? fun saved => saved.1 == orig := by
    rw [TtPriv.saved, List.find?_map]
    rfl
  have hsame := (hfind tt').trans ((congrArg _ h).trans (hfind tt).symm)
  rw [ho, Option.map_some, Option.map_eq_some_iff] at hsame
  exact hsame

/-! ### After a failure -/

/-- **Nothing was committed** for the originator `o`: its version is the one before, and its last
changes are the ones before, or none. -/
def TtNotCommitted (o : TtOrigNode) (tt' : TtPriv) : Prop :=
  ∃ o', ttOrigHashFind tt' o.orig = some o' ∧ o'.lastTtvn = o.lastTtvn ∧
    (o'.ttBuff = o.ttBuff ∨ o'.ttBuff = none)

/-- The version is then the one before. -/
lemma TtNotCommitted.lastTtvn {o : TtOrigNode} {tt' : TtPriv} (h : TtNotCommitted o tt') :
    (ttOrigHashFind tt' o.orig).map TtOrigNode.lastTtvn = some o.lastTtvn := by
  obtain ⟨o', ho', hvn, -⟩ := h
  rw [ho', Option.map_some, hvn]

/-- Saving the changes does not store them: their length is zero as a `u16`, there is no memory, or
they are the ones that are stored already. -/
def TtNotSaved (env : TtEnv) (changes : List TtChange) (o : TtOrigNode) : Prop :=
  (BitVec.ofNat 16 (ttLen changes.length) : U16) = 0 ∨ env.allocBuff = false ∨
    o.ttBuff = some changes

/-- Saving changes does not change which originator it is. -/
lemma orig_ttSaveOrigBuffer (env : TtEnv) (changes : List TtChange) (o : TtOrigNode) :
    (ttSaveOrigBuffer env changes o).orig = o.orig := by
  unfold ttSaveOrigBuffer
  dsimp only
  split_ifs <;> rfl

/-- What is stored after the changes were saved. -/
lemma ttBuff_ttSaveOrigBuffer_iff (env : TtEnv) (changes : List TtChange) {o o' : TtOrigNode}
    (hbuff : o'.ttBuff = o.ttBuff) :
    ((ttSaveOrigBuffer env changes o').ttBuff = o.ttBuff ∨
      (ttSaveOrigBuffer env changes o').ttBuff = none) ↔ TtNotSaved env changes o := by
  unfold ttSaveOrigBuffer TtNotSaved
  dsimp only
  by_cases hlen : (BitVec.ofNat 16 (ttLen changes.length) : U16) = 0
  · rw [if_pos hlen]
    exact iff_of_true (Or.inl hbuff) (Or.inl hlen)
  rw [if_neg hlen]
  cases env.allocBuff with
  | false => exact iff_of_true (Or.inr rfl) (Or.inr (Or.inl rfl))
  | true =>
    constructor
    · rintro (h | h)
      · exact Or.inr (Or.inr h.symm)
      · cases h
    · rintro (h | h | h)
      · exact absurd h hlen
      · cases h
      · exact Or.inl h.symm

/-- What is committed at the end of a call, from what is written to the originator. -/
lemma ttNotCommitted_iff {tt tt' : TtPriv} (hsaved : tt'.saved = tt.saved) {orig : EthAddr}
    {o : TtOrigNode} (ho : ttOrigHashFind tt orig = some o) {f : TtOrigNode → TtOrigNode}
    (hf : ∀ o, (f o).orig = o.orig) :
    ∃ o', o'.saved = o.saved ∧ (TtNotCommitted o (ttOrigUpdate tt' orig f) ↔
      (f o').lastTtvn = o.lastTtvn ∧ ((f o').ttBuff = o.ttBuff ∨ (f o').ttBuff = none)) := by
  obtain ⟨o', ho', heq⟩ := ttOrigHashFind_of_saved hsaved ho
  have horig : o.orig = orig := by simpa using List.find?_some ho
  refine ⟨o', heq, ?_⟩
  unfold TtNotCommitted
  rw [horig, ttOrigHashFind_update tt' orig (fun o _ => hf o), ho', Option.map_some, if_pos rfl]
  simp

/-- **Nothing is committed after a failure.**  If a client cannot be added,
`batadv_tt_update_changes` commits nothing exactly if the announced version is the one the node has
and the changes are not stored, and `batadv_tt_fill_gtable` exactly if the version is the one the
node has.  So neither ever commits after a failure exactly if this is so, or no client can fail to
be added. -/
theorem tt_failed_changes_iff (orig : EthAddr) (ttvn : U8) {tt : TtPriv} {o : TtOrigNode}
    (ho : ttOrigHashFind tt orig = some o) (env : TtEnv) (turns : List TtTurn) :
    (((ttUpdateChangesTurns orig ttvn tt turns).2 = false →
        TtNotCommitted o (ttUpdateChangesCommit env tt orig ttvn turns)) ↔
      TtAllStorable orig ttvn tt turns ∨
        ttvn = o.lastTtvn ∧ TtNotSaved env (turns.map TtTurn.change) o) ∧
    (((ttUpdateChangesTurns orig ttvn (ttGlobalDelOrig env tt orig none) turns).2 = false →
        TtNotCommitted o (ttFillGtableTurns env tt turns ttvn orig)) ↔
      TtAllStorable orig ttvn (ttGlobalDelOrig env tt orig none) turns ∨ ttvn = o.lastTtvn) := by
  constructor
  · obtain ⟨o', heq, hiff⟩ := ttNotCommitted_iff (ttUpdateChangesTurns_saved orig ttvn tt turns) ho
      (f := fun o => { ttSaveOrigBuffer env (turns.map TtTurn.change) o with lastTtvn := ttvn })
      (orig_ttSaveOrigBuffer env _)
    have hbuff : o'.ttBuff = o.ttBuff := congrArg (fun saved => saved.2.2.1) heq
    have hcommit := hiff.trans (and_congr_right' (ttBuff_ttSaveOrigBuffer_iff env _ hbuff))
    rw [← ttUpdateChangesTurns_snd, ttUpdateChangesCommit, hcommit]
    cases (ttUpdateChangesTurns orig ttvn tt turns).2 <;> simp
  · obtain ⟨o', -, hiff⟩ := ttNotCommitted_iff
      ((ttUpdateChangesTurns_saved orig ttvn (ttGlobalDelOrig env tt orig none) turns).trans
        (saved_ttGlobalDelOrig env tt orig none)) ho
      (f := fun o => { o with ttBuff := none, ttBuffLen := 0, lastTtvn := ttvn }) fun o => rfl
    rw [← ttUpdateChangesTurns_snd, ttFillGtableTurns, hiff]
    cases (ttUpdateChangesTurns orig ttvn (ttGlobalDelOrig env tt orig none) turns).2 <;> simp

/-! ### Two clients -/

/-- An originator at version 4. -/
def ttFourthVersion : TtOrigNode := { ttOrigNodeNew 0x020000000002 with lastTtvn := 4 }

/-- A node that knows this originator, and none of its clients. -/
def ttOneOrig : TtPriv := ⟨.new [0], [], [ttFourthVersion]⟩

/-- Two clients are added, and there is memory for the second one or not. -/
def ttTwoTurns (alloc : Bool) : List TtTurn :=
  [⟨.plain 0 fun _ _ => 0, ⟨0, 0x0200000000c1, 0⟩⟩,
    ⟨{ TtEnv.plain 0 fun _ _ => 0 with allocEntry := fun _ _ => alloc }, ⟨0, 0x0200000000c2, 0⟩⟩]

/-- Without memory for the second client and for the changes, nothing of the version that the node
has already is committed: the theorem applies. -/
theorem tt_failed_changes_iff_same_version :
    TtNotCommitted ttFourthVersion
      (ttUpdateChangesCommit { TtEnv.plain 0 fun _ _ => 0 with allocBuff := false } ttOneOrig
        0x020000000002 4 (ttTwoTurns false)) :=
  (tt_failed_changes_iff 0x020000000002 4
    (show ttOrigHashFind ttOneOrig 0x020000000002 = some ttFourthVersion from rfl)
    { TtEnv.plain 0 fun _ _ => 0 with allocBuff := false } (ttTwoTurns false)).1.2
      (Or.inr ⟨rfl, Or.inr (Or.inl rfl)⟩) (by decide)

/-- **A version whose clients are not all known is committed**: without memory for the second client
the node has one client of version 5, says that it has this version, and keeps both changes; the
same for the whole table. -/
theorem tt_failed_changes_committed :
    let tt := ttUpdateChangesTurns 0x020000000002 5 ttOneOrig (ttTwoTurns false)
    let tt' := ttUpdateChangesCommit (.plain 0 fun _ _ => 0) ttOneOrig 0x020000000002 5
      (ttTwoTurns false)
    let tt'' := ttFillGtableTurns (.plain 0 fun _ _ => 0) ttOneOrig (ttTwoTurns false) 5
      0x020000000002
    tt.2 = false ∧
      tt'.globalHash.map TtGlobalEntry.addr = [0x0200000000c1] ∧
      ((ttOrigHashFind tt' 0x020000000002).map fun o => (o.lastTtvn, o.ttBuff)) =
        some (5, some [⟨0, 0x0200000000c1, 0⟩, ⟨0, 0x0200000000c2, 0⟩]) ∧
      tt''.globalHash.map TtGlobalEntry.addr = [0x0200000000c1] ∧
      ((ttOrigHashFind tt'' 0x020000000002).map TtOrigNode.lastTtvn) = some 5 ∧
      ¬ TtNotCommitted ttFourthVersion tt' ∧
      ¬ TtNotCommitted ttFourthVersion tt'' := by
  refine ⟨by decide, by decide, by decide, by decide, by decide, ?_, ?_⟩
  · exact fun h => absurd h.lastTtvn (by decide)
  · exact fun h => absurd h.lastTtvn (by decide)

end Batadv
