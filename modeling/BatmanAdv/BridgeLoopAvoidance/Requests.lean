import BatmanAdv.BridgeLoopAvoidance.Claims
import BatmanAdv.Lib.Run
import BatmanAdv.Lib.Table

set_option relaxedAutoImplicit false
set_option autoImplicit false

/-!
# How many requests are in flight

While a backbone gateway has not answered a request, `request_sent` of the gateway is set and
`num_requests` counts it; broadcasts are dropped while the counter is not zero.  The flag and the
counter are separate atomic variables, that four functions read and change in several steps.  Here
every lookup, every access to one of the variables and every removal is a step of its own, and the
steps of any number of threads are interleaved.

## Main definitions

* `Batadv.BlaThread` — where a thread is in one of the functions.
* `Batadv.blaThreadStep`, `Batadv.blaReqStep` — a step of a thread, and a step of any kind.
* `Batadv.BlaReqEvent.Apart` — a thread that decides to change a gateway's flag is the only one, and
  the gateway is in the hash table.

## Main results

* `Batadv.BlaReqState.Inv.step` — a step under this condition keeps the invariant.
* `Batadv.bla_requests_counted` — the counter is the number of gateways with pending requests.
-/

namespace Batadv

/-! ### The state -/

/-- `struct batadv_bla_backbone_gw`; `hashed` says whether it is in the hash table. -/
structure BlaReqGw where
  orig : EthAddr
  vid : U16
  crc : U16
  lasttime : Jiffies
  requestSent : ℤ
  waitPeriods : ℤ
  hashed : Bool
deriving DecidableEq, Repr

/-- Where a thread is: what it does next. -/
inductive BlaThread
  /-- `batadv_handle_announce` looks the gateway up. -/
  | announce (orig : EthAddr) (vid crc : U16)
  /-- It has not found the gateway, and adds it. -/
  | announceAdd (orig : EthAddr) (vid crc : U16)
  /-- It compares the checksums. -/
  | announceCrc (gw : ℕ) (crc : U16)
  /-- `batadv_bla_send_request` reads `request_sent`, increments the counter, sets the flag. -/
  | requestRead (gw : ℕ)
  | requestInc (gw : ℕ)
  | requestSet (gw : ℕ)
  /-- The checksum is right: `request_sent` is read, the counter decremented, the flag reset. -/
  | answerRead (gw : ℕ)
  | answerDec (gw : ℕ)
  | answerSet (gw : ℕ)
  /-- `batadv_bla_get_backbone_gw` looks an own gateway up, adds it, increments `request_sent`, sets
  `wait_periods`, and increments the counter. -/
  | own (orig : EthAddr) (vid : U16)
  | ownAdd (orig : EthAddr) (vid : U16)
  | ownSent (gw : ℕ)
  | ownWait (gw : ℕ)
  | ownInc
  /-- `batadv_bla_periodic_work` reads `request_sent` of an own gateway, decrements `wait_periods`,
  decrements the counter, resets the flag. -/
  | periodicRead (gw : ℕ)
  | periodicWait (gw : ℕ)
  | periodicDec (gw : ℕ)
  | periodicSet (gw : ℕ)
  /-- `batadv_bla_purge_backbone_gw` reads `request_sent` under the lock of the bucket, decrements
  the counter, and removes the gateway. -/
  | purgeRead (gw : ℕ)
  | purgeDec (gw : ℕ)
  | purgeDel (gw : ℕ) (decremented : Bool)
  | done
deriving DecidableEq, Repr

/-- The gateways in memory, the counter, and the threads; `primaryIf` is the address of the primary
interface. -/
structure BlaReqState where
  jiffies : Jiffies
  primaryIf : EthAddr
  gws : Table ℕ BlaReqGw
  numRequests : ℤ
  threads : Table ℕ BlaThread
deriving DecidableEq, Repr

/-- The state without gateways. -/
def BlaReqState.init (jiffies : Jiffies) (primaryIf : EthAddr) : BlaReqState :=
  ⟨jiffies, primaryIf, [], 0, []⟩

/-- `batadv_backbone_hash_find`. -/
def BlaReqState.hashFind (s : BlaReqState) (orig : EthAddr) (vid : U16) : Option ℕ :=
  (s.gws.find? fun e => e.2.hashed && e.2.orig == orig && e.2.vid == vid).map Prod.fst

/-- The gateway that a purge is removing, whose bucket it has locked. -/
def BlaThread.purging : BlaThread → Option ℕ
  | .purgeRead gw | .purgeDec gw | .purgeDel gw _ => some gw
  | _ => none

/-- A purge holds the lock of a bucket. -/
def BlaReqState.locked (env : BlaEnv) (s : BlaReqState) (bucket : ℕ) : Bool :=
  s.threads.any fun e => (e.2.purging.bind s.gws.get).any fun g =>
    env.chooseBackboneGw g.orig g.vid == bucket

/-- The state with a changed gateway. -/
def BlaReqState.setGw (s : BlaReqState) (gw : ℕ) (g : BlaReqGw) : BlaReqState :=
  { s with gws := s.gws.set gw g }

/-- The state with another value of the counter. -/
def BlaReqState.addRequests (s : BlaReqState) (n : ℤ) : BlaReqState :=
  { s with numRequests := s.numRequests + n }

/-- The state when a thread has got on. -/
def BlaReqState.goto (s : BlaReqState) (t : ℕ) (th : BlaThread) : BlaReqState :=
  { s with threads := s.threads.set t th }

/-- A new gateway: `batadv_bla_get_backbone_gw`. -/
def blaReqGwNew (jiffies : Jiffies) (orig : EthAddr) (vid : U16) : BlaReqGw :=
  ⟨orig, vid, BLA_CRC_INIT, jiffies, 0, 0, true⟩

/-! ### Steps -/

/-- `batadv_hash_add` for a new gateway, the object `new`, if there is memory for one; `next` is
what the thread does with it.  The step waits for the lock of the bucket. -/
def blaHashAdd (env : BlaEnv) (s : BlaReqState) (t : ℕ) (new : Option ℕ) (orig : EthAddr)
    (vid : U16) (next : ℕ → BlaThread) : BlaReqState :=
  match new with
  | none => s.goto t .done
  | some gw =>
    if (s.gws.get gw).isSome || s.locked env (env.chooseBackboneGw orig vid) then s
    -- somebody else has added the gateway
    else if (s.hashFind orig vid).isSome then s.goto t .done
    else (s.setGw gw (blaReqGwNew s.jiffies orig vid)).goto t (next gw)

/-- A step of a thread that is about to access a gateway. -/
def blaGwStep (s : BlaReqState) (t gw : ℕ) (g : BlaReqGw) : BlaThread → BlaReqState
  | .announceCrc _ crc =>
    let s := s.setGw gw { g with lasttime := s.jiffies }
    s.goto t (if g.crc ≠ crc then .requestRead gw else .answerRead gw)
  -- no local broadcasts should be sent or received, for now
  | .requestRead _ => s.goto t (if g.requestSent = 0 then .requestInc gw else .done)
  | .requestInc _ => (s.addRequests 1).goto t (.requestSet gw)
  | .requestSet _ => (s.setGw gw { g with requestSent := 1 }).goto t .done
  -- if we have sent a request and the crc was OK, we can allow traffic again
  | .answerRead _ => s.goto t (if g.requestSent ≠ 0 then .answerDec gw else .done)
  | .answerDec _ => (s.addRequests (-1)).goto t (.answerSet gw)
  | .answerSet _ => (s.setGw gw { g with requestSent := 0 }).goto t .done
  -- this will be decreased in the worker thread
  | .ownSent _ => (s.setGw gw { g with requestSent := g.requestSent + 1 }).goto t (.ownWait gw)
  | .ownWait _ => (s.setGw gw { g with waitPeriods := BLA_WAIT_PERIODS }).goto t .ownInc
  | .periodicRead _ => s.goto t (if g.requestSent = 0 then .done else .periodicWait gw)
  | .periodicWait _ =>
    let s := s.setGw gw { g with waitPeriods := g.waitPeriods - 1 }
    s.goto t (if g.waitPeriods - 1 = 0 then .periodicDec gw else .done)
  | .periodicDec _ => (s.addRequests (-1)).goto t (.periodicSet gw)
  | .periodicSet _ => (s.setGw gw { g with requestSent := 0 }).goto t .done
  -- don't wait for the pending request anymore
  | .purgeRead _ => s.goto t (if g.requestSent ≠ 0 then .purgeDec gw else .purgeDel gw false)
  | .purgeDec _ => (s.addRequests (-1)).goto t (.purgeDel gw true)
  | .purgeDel _ _ => (s.setGw gw { g with hashed := false }).goto t .done
  | _ => s

/-- The gateway that a thread is about to access. -/
def BlaThread.gw : BlaThread → Option ℕ
  | .announceCrc gw _ | .requestRead gw | .requestInc gw | .requestSet gw | .answerRead gw
  | .answerDec gw | .answerSet gw | .ownSent gw | .ownWait gw | .periodicRead gw | .periodicWait gw
  | .periodicDec gw | .periodicSet gw | .purgeRead gw | .purgeDec gw | .purgeDel gw _ => some gw
  | _ => none

/-- A step of a thread. -/
def blaThreadStep (env : BlaEnv) (s : BlaReqState) (t : ℕ) (new : Option ℕ) (th : BlaThread) :
    BlaReqState :=
  match th with
  | .announce orig vid crc =>
    match s.hashFind orig vid with
    | some gw => s.goto t (.announceCrc gw crc)
    | none => s.goto t (.announceAdd orig vid crc)
  | .announceAdd orig vid crc => blaHashAdd env s t new orig vid fun gw => .announceCrc gw crc
  | .own orig vid =>
    match s.hashFind orig vid with
    | some _ => s.goto t .done
    | none => s.goto t (.ownAdd orig vid)
  | .ownAdd orig vid => blaHashAdd env s t new orig vid .ownSent
  | .ownInc => (s.addRequests 1).goto t .done
  | th =>
    match th.gw with
    | some gw =>
      match s.gws.get gw with
      | some g => blaGwStep s t gw g th
      | none => s
    | none => s

/-- An event: the clock ticks; the claims of a gateway, and so its checksum, change; a thread starts
to handle an announcement, to look up the own gateway of a VLAN, to look at a gateway in the
periodic work, or to purge a gateway; or a thread takes a step. -/
inductive BlaReqEvent
  | tick
  | crc (gw : ℕ) (crc : U16)
  | announce (t : ℕ) (orig : EthAddr) (vid crc : U16)
  | own (t : ℕ) (vid : U16)
  | periodic (t gw : ℕ)
  | purge (t gw : ℕ) (now : Bool)
  | step (t : ℕ) (new : Option ℕ)
deriving DecidableEq, Repr

/-- The state after an event.  A new thread gets a new number. -/
def blaReqStep (env : BlaEnv) (s : BlaReqState) : BlaReqEvent → BlaReqState
  | .tick => { s with jiffies := s.jiffies + 1 }
  | .crc gw crc =>
    match s.gws.get gw with
    | some g => s.setGw gw { g with crc := crc }
    | none => s
  | .announce t orig vid crc =>
    if (s.threads.get t).isSome then s else s.goto t (.announce orig vid crc)
  | .own t vid => if (s.threads.get t).isSome then s else s.goto t (.own s.primaryIf vid)
  | .periodic t gw =>
    match s.gws.get gw with
    | some g =>
      if (s.threads.get t).isSome || !g.hashed || g.orig != s.primaryIf then s
      else (s.setGw gw { g with lasttime := s.jiffies }).goto t (.periodicRead gw)
    | none => s
  | .purge t gw now =>
    match s.gws.get gw with
    | some g =>
      if (s.threads.get t).isSome || !g.hashed ||
        s.locked env (env.chooseBackboneGw g.orig g.vid) then s
      else if now || hasTimedOut env.msecsToJiffies s.jiffies g.lasttime BLA_BACKBONE_TIMEOUT then
        s.goto t (.purgeRead gw)
      else s
    | none => s
  | .step t new =>
    match s.threads.get t with
    | some th => blaThreadStep env s t new th
    | none => s

/-! ### The condition -/

/-- The gateway whose flag, or place in the hash table, a thread is about to change because of what
it has read, and the value that it takes the flag to have. -/
def BlaThread.changing : BlaThread → Option (ℕ × ℤ)
  | .requestInc gw | .requestSet gw => some (gw, 0)
  | .answerDec gw | .answerSet gw | .periodicDec gw | .periodicSet gw | .purgeDec gw => some (gw, 1)
  | .purgeDel gw decremented => some (gw, if decremented then 1 else 0)
  | _ => none

/-- No thread is about to change a gateway's flag, or its place in the hash table. -/
def BlaReqState.free (s : BlaReqState) (gw : ℕ) : Bool :=
  s.threads.all fun e => e.2.changing.all fun p => p.1 != gw

/-- **The condition on a thread**: when it reads `request_sent` and decides to change the flag and
the counter, or increments the flag of a new own gateway, or reads the flag to purge the gateway,
no other thread is about to change the flag or to remove the gateway, which is in the hash table;
and the flag of a gateway whose `wait_periods` have passed is still set, the one of a new gateway is
not. -/
def BlaReqState.apart (s : BlaReqState) (gw : ℕ) (g : BlaReqGw) : BlaThread → Bool
  | .requestRead _ => g.requestSent != 0 || g.hashed && s.free gw
  | .answerRead _ => g.requestSent == 0 || g.hashed && s.free gw
  | .ownSent _ => g.requestSent == 0 && g.hashed && s.free gw
  | .periodicWait _ => g.waitPeriods - 1 != 0 || g.requestSent != 0 && g.hashed && s.free gw
  | .purgeRead _ => s.free gw
  | _ => true

/-- **The condition on an event**, for the thread that takes a step. -/
def BlaReqEvent.Apart (s : BlaReqState) : BlaReqEvent → Prop
  | .step t _ => (s.threads.get t).all fun th =>
      (th.gw.bind fun gw => (s.gws.get gw).map fun g => s.apart gw g th).getD true
  | _ => True

instance BlaReqEvent.decidableApart (s : BlaReqState) (e : BlaReqEvent) : Decidable (e.Apart s) :=
  match e with
  | .step _ _ => inferInstanceAs (Decidable (_ = true))
  | .tick | .crc _ _ | .announce _ _ _ _ | .own _ _ | .periodic _ _ | .purge _ _ _ =>
    .isTrue trivial

/-! ### The invariant -/

/-- What a thread has done to the counter and not yet to a gateway, or the other way round. -/
def BlaThread.debt : BlaThread → ℤ
  | .requestSet _ => 1
  | .answerSet _ | .periodicSet _ | .purgeDel _ true | .ownWait _ | .ownInc => -1
  | _ => 0

/-- A gateway in the hash table waits for an answer. -/
def BlaReqGw.waiting (g : BlaReqGw) : Bool := g.hashed && g.requestSent != 0

/-- The number of gateways in the hash table whose `request_sent` is not zero. -/
def BlaReqState.waiting (s : BlaReqState) : ℕ := s.gws.countP fun e => e.2.waiting

/-- No thread other than `t` is about to change a gateway's flag, or its place in the hash table. -/
def BlaReqState.Alone (s : BlaReqState) (t gw : ℕ) : Prop :=
  ∀ t' th v, t' ≠ t → s.threads.get t' = some th → th.changing ≠ some (gw, v)

/-- **The invariant**: flags are zero or one; a gateway that a thread is about to change is in the
hash table and has the flag that the thread has read, and no other thread is about to change it; the
counter is the number of waiting gateways, but for what threads have yet to do. -/
structure BlaReqState.Inv (s : BlaReqState) : Prop where
  gwKeys : (s.gws.map Prod.fst).Nodup
  threadKeys : (s.threads.map Prod.fst).Nodup
  binary : ∀ gw g, s.gws.get gw = some g → g.requestSent = 0 ∨ g.requestSent = 1
  changing : ∀ t th gw v, s.threads.get t = some th → th.changing = some (gw, v) →
    ∃ g, s.gws.get gw = some g ∧ g.hashed = true ∧ g.requestSent = v
  alone : ∀ t th gw v, s.threads.get t = some th → th.changing = some (gw, v) → s.Alone t gw
  purging : ∀ t th gw, s.threads.get t = some th → th.purging = some gw →
    ∃ g, s.gws.get gw = some g ∧ g.hashed = true
  purgingAlone : ∀ t t' th th' gw, s.threads.get t = some th → s.threads.get t' = some th' →
    th.purging = some gw → th'.purging = some gw → t = t'
  count : s.numRequests = Table.total (fun g => if g.waiting then 1 else 0) s.gws +
    Table.total BlaThread.debt s.threads

variable {s : BlaReqState} {t gw : ℕ} {th : BlaThread} {g : BlaReqGw}

lemma alone_of_free (h : s.free gw = true) (t : ℕ) : s.Alone t gw := by
  intro t' th v _ hth hchanging
  have hmem := List.all_eq_true.1 h (t', th) (Table.mem_of_get hth)
  simp [hchanging] at hmem

/-- **A thread takes a step** in which it changes its gateway and the counter.

**Proof sketch.** Other threads are not about to change the gateway, unless it keeps its flag and
its place; the sums of the two tables change by what the gateway and the thread are worth. -/
theorem BlaReqState.Inv.update (h : s.Inv) (hth : s.threads.get t = some th)
    (hgw : s.gws.get gw = some g) (th' : BlaThread) (g' : BlaReqGw) (n : ℤ)
    (hbinary : g'.requestSent = 0 ∨ g'.requestSent = 1)
    (hkeep : g'.hashed = g.hashed ∧ g'.requestSent = g.requestSent ∨ s.Alone t gw)
    (hchanging : ∀ p, th'.changing = some p →
      p = (gw, g'.requestSent) ∧ g'.hashed = true ∧ s.Alone t gw)
    (hhashed : g'.hashed = g.hashed ∨ th.purging = some gw ∧ th'.purging = none)
    (hpurging : ∀ gw', th'.purging = some gw' → th.purging = some gw')
    (hcount : n + (if g.waiting then 1 else 0) + th.debt =
      (if g'.waiting then 1 else 0) + th'.debt) :
    (((s.setGw gw g').addRequests n).goto t th').Inv := by
  have hthreads : ∀ t₁ th₁, (s.threads.set t th').get t₁ = some th₁ →
      t₁ = t ∧ th₁ = th' ∨ t₁ ≠ t ∧ s.threads.get t₁ = some th₁ := by
    intro t₁ th₁ h₁
    by_cases ht : t₁ = t
    · rw [ht, Table.get_set_self] at h₁
      exact .inl ⟨ht, (Option.some.inj h₁).symm⟩
    · rw [Table.get_set_of_ne _ _ ht] at h₁
      exact .inr ⟨ht, h₁⟩
  have hgws : ∀ gw₁ g₁, gw₁ ≠ gw → s.gws.get gw₁ = some g₁ →
      (s.gws.set gw g').get gw₁ = some g₁ := fun gw₁ g₁ hne h₁ =>
    (Table.get_set_of_ne _ _ hne).trans h₁
  constructor
  · exact Table.nodup_set h.gwKeys _ _
  · exact Table.nodup_set h.threadKeys _ _
  · intro gw₁ g₁ h₁
    change (s.gws.set gw g').get gw₁ = some g₁ at h₁
    by_cases hne : gw₁ = gw
    · rw [hne, Table.get_set_self] at h₁
      exact Option.some.inj h₁ ▸ hbinary
    · rw [Table.get_set_of_ne _ _ hne] at h₁
      exact h.binary gw₁ g₁ h₁
  · intro t₁ th₁ gw₁ v h₁ hv
    obtain ⟨-, rfl⟩ | ⟨hne, k₁⟩ := hthreads t₁ th₁ h₁
    · obtain ⟨hp, hhash, -⟩ := hchanging _ hv
      obtain ⟨rfl, rfl⟩ := Prod.mk.inj hp
      exact ⟨g', Table.get_set_self _ _ _, hhash, rfl⟩
    · obtain ⟨g₁, hg₁, hhash, hsent⟩ := h.changing t₁ th₁ gw₁ v k₁ hv
      by_cases hgw₁ : gw₁ = gw
      · subst hgw₁
        obtain rfl : g = g₁ := Option.some.inj (hgw.symm.trans hg₁)
        obtain ⟨hsame, hsame'⟩ | halone := hkeep
        · exact ⟨g', Table.get_set_self _ _ _, hsame.trans hhash, hsame'.trans hsent⟩
        · exact absurd hv (halone t₁ th₁ v hne k₁)
      · exact ⟨g₁, hgws gw₁ g₁ hgw₁ hg₁, hhash, hsent⟩
  · intro t₁ th₁ gw₁ v h₁ hv t₂ th₂ v₂ hne h₂ hv₂
    obtain ⟨rfl, rfl⟩ | ⟨hne₁, k₁⟩ := hthreads t₁ th₁ h₁ <;>
      obtain ⟨rfl, rfl⟩ | ⟨hne₂, k₂⟩ := hthreads t₂ th₂ h₂
    · exact hne rfl
    · obtain ⟨hp, -, halone⟩ := hchanging _ hv
      obtain ⟨rfl, -⟩ := Prod.mk.inj hp
      exact halone t₂ th₂ v₂ hne₂ k₂ hv₂
    · obtain ⟨hp, -, halone⟩ := hchanging _ hv₂
      obtain ⟨rfl, -⟩ := Prod.mk.inj hp
      exact halone t₁ th₁ v hne₁ k₁ hv
    · exact h.alone t₁ th₁ gw₁ v k₁ hv t₂ th₂ v₂ hne k₂ hv₂
  · intro t₁ th₁ gw₁ h₁ hp
    have hold : ∃ th₀, s.threads.get t₁ = some th₀ ∧ th₀.purging = some gw₁ ∧
        (t₁ = t → th'.purging = some gw₁) := by
      obtain ⟨rfl, rfl⟩ | ⟨hne, k₁⟩ := hthreads t₁ th₁ h₁
      · exact ⟨th, hth, hpurging gw₁ hp, fun _ => hp⟩
      · exact ⟨th₁, k₁, hp, fun ht => absurd ht hne⟩
    obtain ⟨th₀, h₀, hp₀, hown⟩ := hold
    obtain ⟨g₁, hg₁, hhash⟩ := h.purging t₁ th₀ gw₁ h₀ hp₀
    by_cases hgw₁ : gw₁ = gw
    · subst hgw₁
      obtain rfl : g = g₁ := Option.some.inj (hgw.symm.trans hg₁)
      obtain hsame | ⟨hpt, hnone⟩ := hhashed
      · exact ⟨g', Table.get_set_self _ _ _, hsame.trans hhash⟩
      · have ht := h.purgingAlone t₁ t th₀ th gw₁ h₀ hth hp₀ hpt
        simp [hown ht] at hnone
    · exact ⟨g₁, hgws gw₁ g₁ hgw₁ hg₁, hhash⟩
  · intro t₁ t₂ th₁ th₂ gw₁ h₁ h₂ hp₁ hp₂
    obtain ⟨rfl, rfl⟩ | ⟨hne₁, k₁⟩ := hthreads t₁ th₁ h₁ <;>
      obtain ⟨rfl, rfl⟩ | ⟨hne₂, k₂⟩ := hthreads t₂ th₂ h₂
    · rfl
    · exact h.purgingAlone _ _ _ _ gw₁ hth k₂ (hpurging gw₁ hp₁) hp₂
    · exact h.purgingAlone _ _ _ _ gw₁ k₁ hth hp₁ (hpurging gw₁ hp₂)
    · exact h.purgingAlone _ _ _ _ gw₁ k₁ k₂ hp₁ hp₂
  · have hsumG := Table.total_set h.gwKeys hgw (fun g => if g.waiting then 1 else 0) g'
    have hsumT := Table.total_set h.threadKeys hth BlaThread.debt th'
    have hsum := h.count
    show s.numRequests + n = Table.total _ (s.gws.set gw g') + Table.total _ (s.threads.set t th')
    omega

/-- **A thread gets on** without changing its gateway. -/
lemma BlaReqState.Inv.keep (h : s.Inv) (hth : s.threads.get t = some th)
    (hgw : s.gws.get gw = some g) (th' : BlaThread) (n : ℤ)
    (hchanging : ∀ p, th'.changing = some p →
      p = (gw, g.requestSent) ∧ g.hashed = true ∧ s.Alone t gw)
    (hpurging : ∀ gw', th'.purging = some gw' → th.purging = some gw')
    (hcount : n + th.debt = th'.debt) :
    ((s.addRequests n).goto t th').Inv := by
  have hself : s.setGw gw g = s := by
    unfold BlaReqState.setGw
    rw [Table.set_eq_self hgw]
  have hupdate := h.update hth hgw th' g n (h.binary gw g hgw) (.inl ⟨rfl, rfl⟩) hchanging
    (.inl rfl) hpurging (by omega)
  rwa [hself] at hupdate

/-- **A thread changes its gateway.** -/
lemma BlaReqState.Inv.change (h : s.Inv) (hth : s.threads.get t = some th)
    (hgw : s.gws.get gw = some g) (th' : BlaThread) (g' : BlaReqGw)
    (hbinary : g'.requestSent = 0 ∨ g'.requestSent = 1)
    (hkeep : g'.hashed = g.hashed ∧ g'.requestSent = g.requestSent ∨ s.Alone t gw)
    (hchanging : ∀ p, th'.changing = some p →
      p = (gw, g'.requestSent) ∧ g'.hashed = true ∧ s.Alone t gw)
    (hhashed : g'.hashed = g.hashed ∨ th.purging = some gw ∧ th'.purging = none)
    (hpurging : ∀ gw', th'.purging = some gw' → th.purging = some gw')
    (hcount : (if g.waiting then 1 else 0) + th.debt =
      (if g'.waiting then 1 else 0) + th'.debt) :
    ((s.setGw gw g').goto t th').Inv := by
  have hzero : (s.setGw gw g').addRequests 0 = s.setGw gw g' := by
    unfold BlaReqState.addRequests
    rw [add_zero]
  have hupdate := h.update hth hgw th' g' 0 hbinary hkeep hchanging hhashed hpurging (by omega)
  rwa [hzero] at hupdate

/-- A thread gets on, and changes neither the flag nor the place of its gateway. -/
lemma BlaReqState.Inv.touch (h : s.Inv) (hth : s.threads.get t = some th)
    (hgw : s.gws.get gw = some g) (th' : BlaThread) (g' : BlaReqGw)
    (hsame : g'.hashed = g.hashed ∧ g'.requestSent = g.requestSent)
    (hchanging : ∀ p, th'.changing = some p →
      p = (gw, g.requestSent) ∧ g.hashed = true ∧ s.Alone t gw)
    (hpurging : ∀ gw', th'.purging = some gw' → th.purging = some gw')
    (hdebt : th.debt = th'.debt) : ((s.setGw gw g').goto t th').Inv := by
  obtain ⟨hhashed, hsent⟩ := hsame
  have hwaiting : g'.waiting = g.waiting := by
    unfold BlaReqGw.waiting
    rw [hhashed, hsent]
  refine h.change hth hgw th' g' ?_ (.inl ⟨hhashed, hsent⟩) ?_ (.inl hhashed) hpurging ?_
  · rw [hsent]
    exact h.binary gw g hgw
  · rw [hsent, hhashed]
    exact hchanging
  · rw [hwaiting, hdebt]

/-- A thread gets on, and changes nothing. -/
lemma BlaReqState.Inv.goto (h : s.Inv) (hth : s.threads.get t = some th)
    (hgw : s.gws.get gw = some g) (th' : BlaThread)
    (hchanging : ∀ p, th'.changing = some p →
      p = (gw, g.requestSent) ∧ g.hashed = true ∧ s.Alone t gw)
    (hpurging : ∀ gw', th'.purging = some gw' → th.purging = some gw')
    (hdebt : th.debt = th'.debt) : (s.goto t th').Inv := by
  have hzero : s.addRequests 0 = s := by
    unfold BlaReqState.addRequests
    rw [add_zero]
  have hkeep := h.keep hth hgw th' 0 hchanging hpurging (by omega)
  rwa [hzero] at hkeep

/-- **A thread that accesses a gateway takes a step**, under the condition. -/
theorem BlaReqState.Inv.gwStep (h : s.Inv) (hth : s.threads.get t = some th)
    (hthgw : th.gw = some gw) (hgw : s.gws.get gw = some g) (hapart : s.apart gw g th = true) :
    (blaGwStep s t gw g th).Inv := by
  have hbinary := h.binary gw g hgw
  have hown : ∀ v, th.changing = some (gw, v) →
      g.hashed = true ∧ g.requestSent = v ∧ s.Alone t gw := by
    intro v hv
    obtain ⟨g₁, hg₁, hhash, hsent⟩ := h.changing t th gw v hth hv
    obtain rfl : g = g₁ := Option.some.inj (hgw.symm.trans hg₁)
    exact ⟨hhash, hsent, h.alone t th gw v hth hv⟩
  cases th with
  | announce | announceAdd | own | ownAdd | ownInc | done => cases hthgw
  | announceCrc gw₁ crc =>
    refine h.touch hth hgw _ { g with lasttime := s.jiffies } ⟨rfl, rfl⟩ ?_ ?_ ?_
    · split_ifs <;> simp [BlaThread.changing]
    · split_ifs <;> simp [BlaThread.purging]
    · split_ifs <;> rfl
  | requestRead gw₁ =>
    show (s.goto t (if g.requestSent = 0 then .requestInc gw else .done)).Inv
    split_ifs with hzero
    · -- it decides to count the request
      obtain ⟨hhash, hfree⟩ : g.hashed = true ∧ s.free gw = true := by
        simpa [BlaReqState.apart, hzero] using hapart
      refine h.goto hth hgw _ (fun p hp => ?_) (by simp [BlaThread.purging]) rfl
      exact ⟨by rw [← Option.some.inj hp, hzero], hhash, alone_of_free hfree t⟩
    · exact h.goto hth hgw _ (by simp [BlaThread.changing]) (by simp [BlaThread.purging]) rfl
  | requestInc gw₁ =>
    obtain rfl : gw₁ = gw := Option.some.inj hthgw
    obtain ⟨hhash, hsent, halone⟩ := hown 0 rfl
    refine h.keep hth hgw _ 1 (fun p hp => ?_) (by simp [BlaThread.purging]) rfl
    exact ⟨by rw [← Option.some.inj hp, hsent], hhash, halone⟩
  | requestSet gw₁ =>
    obtain rfl : gw₁ = gw := Option.some.inj hthgw
    obtain ⟨hhash, hsent, halone⟩ := hown 0 rfl
    refine h.change hth hgw .done { g with requestSent := 1 } (.inr rfl) (.inr halone)
      (by simp [BlaThread.changing]) (.inl rfl) (by simp [BlaThread.purging]) ?_
    simp [BlaReqGw.waiting, hhash, hsent, BlaThread.debt]
  | answerRead gw₁ =>
    show (s.goto t (if g.requestSent ≠ 0 then .answerDec gw else .done)).Inv
    split_ifs with hzero
    · -- it decides to take the request off
      obtain ⟨hhash, hfree⟩ : g.hashed = true ∧ s.free gw = true := by
        simpa [BlaReqState.apart, hzero] using hapart
      refine h.goto hth hgw _ (fun p hp => ?_) (by simp [BlaThread.purging]) rfl
      exact ⟨by rw [← Option.some.inj hp, hbinary.resolve_left hzero], hhash, alone_of_free hfree t⟩
    · exact h.goto hth hgw _ (by simp [BlaThread.changing]) (by simp [BlaThread.purging]) rfl
  | answerDec gw₁ =>
    obtain rfl : gw₁ = gw := Option.some.inj hthgw
    obtain ⟨hhash, hsent, halone⟩ := hown 1 rfl
    refine h.keep hth hgw _ (-1) (fun p hp => ?_) (by simp [BlaThread.purging]) rfl
    exact ⟨by rw [← Option.some.inj hp, hsent], hhash, halone⟩
  | answerSet gw₁ =>
    obtain rfl : gw₁ = gw := Option.some.inj hthgw
    obtain ⟨hhash, hsent, halone⟩ := hown 1 rfl
    refine h.change hth hgw .done { g with requestSent := 0 } (.inl rfl) (.inr halone)
      (by simp [BlaThread.changing]) (.inl rfl) (by simp [BlaThread.purging]) ?_
    simp [BlaReqGw.waiting, hhash, hsent, BlaThread.debt]
  | ownSent gw₁ =>
    -- the flag of the new gateway is not set
    obtain ⟨⟨hsent, hhash⟩, hfree⟩ : (g.requestSent = 0 ∧ g.hashed = true) ∧ s.free gw = true := by
      simpa [BlaReqState.apart] using hapart
    refine h.change hth hgw (.ownWait gw) { g with requestSent := g.requestSent + 1 }
      (.inr (by simp [hsent])) (.inr (alone_of_free hfree t)) (by simp [BlaThread.changing])
      (.inl rfl) (by simp [BlaThread.purging]) ?_
    simp [BlaReqGw.waiting, hhash, hsent, BlaThread.debt]
  | ownWait gw₁ =>
    exact h.touch hth hgw .ownInc { g with waitPeriods := BLA_WAIT_PERIODS } ⟨rfl, rfl⟩
      (by simp [BlaThread.changing]) (by simp [BlaThread.purging]) rfl
  | periodicRead gw₁ =>
    refine h.goto hth hgw (if g.requestSent = 0 then .done else .periodicWait gw) ?_ ?_ ?_
    · split_ifs <;> simp [BlaThread.changing]
    · split_ifs <;> simp [BlaThread.purging]
    · split_ifs <;> rfl
  | periodicWait gw₁ =>
    refine h.touch hth hgw (if g.waitPeriods - 1 = 0 then .periodicDec gw else .done)
      { g with waitPeriods := g.waitPeriods - 1 } ⟨rfl, rfl⟩ (fun p hp => ?_) ?_ ?_
    · split_ifs at hp with hwait
      · -- the flag is still set
        obtain ⟨⟨hsent, hhash⟩, hfree⟩ :
            (g.requestSent ≠ 0 ∧ g.hashed = true) ∧ s.free gw = true := by
          simpa [BlaReqState.apart, hwait] using hapart
        exact ⟨by rw [← Option.some.inj hp, hbinary.resolve_left hsent], hhash,
          alone_of_free hfree t⟩
      · cases hp
    · split_ifs <;> simp [BlaThread.purging]
    · split_ifs <;> rfl
  | periodicDec gw₁ =>
    obtain rfl : gw₁ = gw := Option.some.inj hthgw
    obtain ⟨hhash, hsent, halone⟩ := hown 1 rfl
    refine h.keep hth hgw _ (-1) (fun p hp => ?_) (by simp [BlaThread.purging]) rfl
    exact ⟨by rw [← Option.some.inj hp, hsent], hhash, halone⟩
  | periodicSet gw₁ =>
    obtain rfl : gw₁ = gw := Option.some.inj hthgw
    obtain ⟨hhash, hsent, halone⟩ := hown 1 rfl
    refine h.change hth hgw .done { g with requestSent := 0 } (.inl rfl) (.inr halone)
      (by simp [BlaThread.changing]) (.inl rfl) (by simp [BlaThread.purging]) ?_
    simp [BlaReqGw.waiting, hhash, hsent, BlaThread.debt]
  | purgeRead gw₁ =>
    obtain rfl : gw₁ = gw := Option.some.inj hthgw
    obtain ⟨g₁, hg₁, hhash⟩ := h.purging t _ gw₁ hth rfl
    obtain rfl : g = g₁ := Option.some.inj (hgw.symm.trans hg₁)
    have halone := alone_of_free hapart t
    show (s.goto t (if g.requestSent ≠ 0 then .purgeDec gw₁ else .purgeDel gw₁ false)).Inv
    split_ifs with hsent
    · refine h.goto hth hgw _ (fun p hp => ?_) (fun _ hp => hp) rfl
      exact ⟨by rw [← Option.some.inj hp, hbinary.resolve_left hsent], hhash, halone⟩
    · refine h.goto hth hgw _ (fun p hp => ?_) (fun _ hp => hp) rfl
      exact ⟨by rw [← Option.some.inj hp, not_not.1 hsent]; rfl, hhash, halone⟩
  | purgeDec gw₁ =>
    obtain rfl : gw₁ = gw := Option.some.inj hthgw
    obtain ⟨hhash, hsent, halone⟩ := hown 1 rfl
    refine h.keep hth hgw _ (-1) (fun p hp => ?_) (fun _ hp => hp) rfl
    exact ⟨by rw [← Option.some.inj hp, hsent]; rfl, hhash, halone⟩
  | purgeDel gw₁ decremented =>
    obtain rfl : gw₁ = gw := Option.some.inj hthgw
    obtain ⟨hhash, hsent, halone⟩ := hown _ rfl
    refine h.change hth hgw .done { g with hashed := false } hbinary (.inr halone)
      (by simp [BlaThread.changing]) (.inr ⟨rfl, rfl⟩) (by simp [BlaThread.purging]) ?_
    cases decremented <;> simp [BlaReqGw.waiting, hhash, hsent, BlaThread.debt]

/-! ### Other steps -/

/-- **A thread starts, or gets on,** without a decision about a gateway: a purge locks the bucket of
a gateway that no other purge is removing. -/
lemma BlaReqState.Inv.setThread (h : s.Inv) (t : ℕ) (th' : BlaThread) (n : ℤ)
    (hchanging : th'.changing = none)
    (hpurging : ∀ gw, th'.purging = some gw → (∃ g, s.gws.get gw = some g ∧ g.hashed = true) ∧
      ∀ t₁ th₁, s.threads.get t₁ = some th₁ → th₁.purging ≠ some gw)
    (hcount : n + ((s.threads.get t).map BlaThread.debt).getD 0 = th'.debt) :
    ((s.addRequests n).goto t th').Inv := by
  have hthreads : ∀ t₁ th₁, (s.threads.set t th').get t₁ = some th₁ →
      t₁ = t ∧ th₁ = th' ∨ t₁ ≠ t ∧ s.threads.get t₁ = some th₁ := by
    intro t₁ th₁ h₁
    by_cases ht : t₁ = t
    · rw [ht, Table.get_set_self] at h₁
      exact .inl ⟨ht, (Option.some.inj h₁).symm⟩
    · rw [Table.get_set_of_ne _ _ ht] at h₁
      exact .inr ⟨ht, h₁⟩
  refine ⟨h.gwKeys, Table.nodup_set h.threadKeys _ _, h.binary, fun t₁ th₁ gw₁ v h₁ hv => ?_,
    fun t₁ th₁ gw₁ v h₁ hv t₂ th₂ v₂ hne h₂ hv₂ => ?_, fun t₁ th₁ gw₁ h₁ hp => ?_,
    fun t₁ t₂ th₁ th₂ gw₁ h₁ h₂ hp₁ hp₂ => ?_, ?_⟩
  · obtain ⟨-, rfl⟩ | ⟨-, k₁⟩ := hthreads t₁ th₁ h₁
    · simp [hchanging] at hv
    · exact h.changing t₁ th₁ gw₁ v k₁ hv
  · obtain ⟨-, rfl⟩ | ⟨-, k₁⟩ := hthreads t₁ th₁ h₁
    · simp [hchanging] at hv
    · obtain ⟨-, rfl⟩ | ⟨-, k₂⟩ := hthreads t₂ th₂ h₂
      · simp [hchanging] at hv₂
      · exact h.alone t₁ th₁ gw₁ v k₁ hv t₂ th₂ v₂ hne k₂ hv₂
  · obtain ⟨-, rfl⟩ | ⟨-, k₁⟩ := hthreads t₁ th₁ h₁
    · exact (hpurging gw₁ hp).1
    · exact h.purging t₁ th₁ gw₁ k₁ hp
  · obtain ⟨rfl, rfl⟩ | ⟨-, k₁⟩ := hthreads t₁ th₁ h₁ <;>
      obtain ⟨rfl, rfl⟩ | ⟨-, k₂⟩ := hthreads t₂ th₂ h₂
    · rfl
    · exact absurd hp₂ ((hpurging gw₁ hp₁).2 t₂ th₂ k₂)
    · exact absurd hp₁ ((hpurging gw₁ hp₂).2 t₁ th₁ k₁)
    · exact h.purgingAlone t₁ t₂ th₁ th₂ gw₁ k₁ k₂ hp₁ hp₂
  · have hsum := h.count
    show s.numRequests + n = Table.total (fun g => if g.waiting then 1 else 0) s.gws +
      Table.total BlaThread.debt (s.threads.set t th')
    cases hget : s.threads.get t with
    | none =>
      rw [Table.total_set_of_none hget]
      rw [hget, Option.map_none, Option.getD_none] at hcount
      omega
    | some th₀ =>
      have hset := Table.total_set h.threadKeys hget BlaThread.debt th'
      rw [hget, Option.map_some, Option.getD_some] at hcount
      omega

/-- A thread that does not access a gateway gets on. -/
lemma BlaReqState.Inv.gotoPlain (h : s.Inv) {th₀ : BlaThread} (hth : s.threads.get t = some th₀)
    (th' : BlaThread) (hchanging : th'.changing = none) (hpurging : th'.purging = none)
    (hdebt : th₀.debt = th'.debt) : (s.goto t th').Inv := by
  have hzero : s.addRequests 0 = s := by
    unfold BlaReqState.addRequests
    rw [add_zero]
  have hset := h.setThread t th' 0 hchanging (by simp [hpurging]) (by simp [hth, hdebt])
  rwa [hzero] at hset

/-- A thread starts. -/
lemma BlaReqState.Inv.start (h : s.Inv) (hnew : s.threads.get t = none) (th' : BlaThread)
    (hchanging : th'.changing = none)
    (hpurging : ∀ gw, th'.purging = some gw → (∃ g, s.gws.get gw = some g ∧ g.hashed = true) ∧
      ∀ t₁ th₁, s.threads.get t₁ = some th₁ → th₁.purging ≠ some gw)
    (hdebt : th'.debt = 0) : (s.goto t th').Inv := by
  have hzero : s.addRequests 0 = s := by
    unfold BlaReqState.addRequests
    rw [add_zero]
  have hset := h.setThread t th' 0 hchanging hpurging (by simp [hnew, hdebt])
  rwa [hzero] at hset

/-- **A gateway is added**, which nobody waits for. -/
lemma BlaReqState.Inv.addGw (h : s.Inv) (hnew : s.gws.get gw = none) (hzero : g.requestSent = 0) :
    (s.setGw gw g).Inv := by
  have hget : ∀ gw₁ g₁, s.gws.get gw₁ = some g₁ → (s.gws.set gw g).get gw₁ = some g₁ := by
    intro gw₁ g₁ h₁
    have hne : gw₁ ≠ gw := by
      rintro rfl
      simp [hnew] at h₁
    exact (Table.get_set_of_ne _ _ hne).trans h₁
  refine ⟨Table.nodup_set h.gwKeys _ _, h.threadKeys, fun gw₁ g₁ h₁ => ?_,
    fun t₁ th₁ gw₁ v h₁ hv => ?_, h.alone, fun t₁ th₁ gw₁ h₁ hp => ?_, h.purgingAlone, ?_⟩
  · change (s.gws.set gw g).get gw₁ = some g₁ at h₁
    by_cases hne : gw₁ = gw
    · rw [hne, Table.get_set_self] at h₁
      exact .inl (Option.some.inj h₁ ▸ hzero)
    · rw [Table.get_set_of_ne _ _ hne] at h₁
      exact h.binary gw₁ g₁ h₁
  · obtain ⟨g₁, hg₁, hrest⟩ := h.changing t₁ th₁ gw₁ v h₁ hv
    exact ⟨g₁, hget gw₁ g₁ hg₁, hrest⟩
  · obtain ⟨g₁, hg₁, hrest⟩ := h.purging t₁ th₁ gw₁ h₁ hp
    exact ⟨g₁, hget gw₁ g₁ hg₁, hrest⟩
  · have hsum := h.count
    show s.numRequests = Table.total (fun g => if g.waiting then 1 else 0) (s.gws.set gw g) +
      Table.total BlaThread.debt s.threads
    rw [Table.total_set_of_none hnew, if_neg (by simp [BlaReqGw.waiting, hzero])]
    omega

/-- A gateway is touched by what does not concern requests. -/
lemma BlaReqState.Inv.touchGw (h : s.Inv) (hgw : s.gws.get gw = some g) (g' : BlaReqGw)
    (hhashed : g'.hashed = g.hashed) (hsent : g'.requestSent = g.requestSent) :
    (s.setGw gw g').Inv := by
  have hget : ∀ gw₁ g₁, s.gws.get gw₁ = some g₁ → ∃ g₂, (s.gws.set gw g').get gw₁ = some g₂ ∧
      g₂.hashed = g₁.hashed ∧ g₂.requestSent = g₁.requestSent := by
    intro gw₁ g₁ h₁
    by_cases hne : gw₁ = gw
    · subst hne
      obtain rfl : g = g₁ := Option.some.inj (hgw.symm.trans h₁)
      exact ⟨g', Table.get_set_self _ _ _, hhashed, hsent⟩
    · exact ⟨g₁, (Table.get_set_of_ne _ _ hne).trans h₁, rfl, rfl⟩
  refine ⟨Table.nodup_set h.gwKeys _ _, h.threadKeys, fun gw₁ g₁ h₁ => ?_,
    fun t₁ th₁ gw₁ v h₁ hv => ?_, h.alone, fun t₁ th₁ gw₁ h₁ hp => ?_, h.purgingAlone, ?_⟩
  · change (s.gws.set gw g').get gw₁ = some g₁ at h₁
    by_cases hne : gw₁ = gw
    · rw [hne, Table.get_set_self] at h₁
      rw [← Option.some.inj h₁, hsent]
      exact h.binary gw g hgw
    · rw [Table.get_set_of_ne _ _ hne] at h₁
      exact h.binary gw₁ g₁ h₁
  · obtain ⟨g₁, hg₁, hhash, hv'⟩ := h.changing t₁ th₁ gw₁ v h₁ hv
    obtain ⟨g₂, hg₂, hhash', hsent'⟩ := hget gw₁ g₁ hg₁
    exact ⟨g₂, hg₂, hhash'.trans hhash, hsent'.trans hv'⟩
  · obtain ⟨g₁, hg₁, hhash⟩ := h.purging t₁ th₁ gw₁ h₁ hp
    obtain ⟨g₂, hg₂, hhash', -⟩ := hget gw₁ g₁ hg₁
    exact ⟨g₂, hg₂, hhash'.trans hhash⟩
  · have hset := Table.total_set h.gwKeys hgw (fun g => if g.waiting then 1 else 0) g'
    have hwaiting : g'.waiting = g.waiting := by
      unfold BlaReqGw.waiting
      rw [hhashed, hsent]
    rw [hwaiting] at hset
    exact h.count.trans (congrArg (· + _) (add_right_cancel hset).symm)

/-- **A gateway is added** to the hash table by a thread, unless somebody else has added it. -/
lemma BlaReqState.Inv.hashAdd (h : s.Inv) (env : BlaEnv) {th₀ : BlaThread}
    (hth : s.threads.get t = some th₀) (new : Option ℕ) (orig : EthAddr) (vid : U16)
    {next : ℕ → BlaThread} (hchanging : ∀ gw, (next gw).changing = none)
    (hpurging : ∀ gw, (next gw).purging = none) (hdebt : th₀.debt = 0)
    (hdebt' : ∀ gw, (next gw).debt = 0) : (blaHashAdd env s t new orig vid next).Inv := by
  unfold blaHashAdd
  cases new with
  | none => exact h.gotoPlain hth .done rfl rfl hdebt
  | some gw =>
    dsimp only
    split_ifs with hwait hfound
    · exact h
    · exact h.gotoPlain hth .done rfl rfl hdebt
    · rw [Bool.or_eq_true, not_or] at hwait
      have hnew := Option.not_isSome_iff_eq_none.1 hwait.1
      exact (h.addGw hnew rfl).gotoPlain hth (next gw) (hchanging gw) (hpurging gw)
        (hdebt.trans (hdebt' gw).symm)

/-- A step of a thread that accesses a gateway. -/
lemma blaThreadStep_of_gw (env : BlaEnv) (s : BlaReqState) (t : ℕ) (new : Option ℕ)
    (hthgw : th.gw = some gw) : blaThreadStep env s t new th =
      match s.gws.get gw with
      | some g => blaGwStep s t gw g th
      | none => s := by
  cases th <;> cases hthgw <;> rfl

/-- **A thread takes a step**, under the condition. -/
theorem BlaReqState.Inv.threadStep (h : s.Inv) (env : BlaEnv) (hth : s.threads.get t = some th)
    (new : Option ℕ) (hapart : ∀ gw g, th.gw = some gw → s.gws.get gw = some g →
      s.apart gw g th = true) : (blaThreadStep env s t new th).Inv := by
  cases hthgw : th.gw with
  | some gw =>
    rw [blaThreadStep_of_gw env s t new hthgw]
    split
    · rename_i g hgw
      exact h.gwStep hth hthgw hgw (hapart gw g hthgw hgw)
    · exact h
  | none =>
    cases th with
    | announce orig vid crc =>
      show (match s.hashFind orig vid with
        | some gw => s.goto t (.announceCrc gw crc)
        | none => s.goto t (.announceAdd orig vid crc)).Inv
      split <;> exact h.gotoPlain hth _ rfl rfl rfl
    | announceAdd orig vid crc =>
      show (blaHashAdd env s t new orig vid fun gw => .announceCrc gw crc).Inv
      exact h.hashAdd env hth new _ _ (fun _ => rfl) (fun _ => rfl) rfl fun _ => rfl
    | own orig vid =>
      show (match s.hashFind orig vid with
        | some _ => s.goto t .done
        | none => s.goto t (.ownAdd orig vid)).Inv
      split <;> exact h.gotoPlain hth _ rfl rfl rfl
    | ownAdd orig vid =>
      show (blaHashAdd env s t new orig vid .ownSent).Inv
      exact h.hashAdd env hth new _ _ (fun _ => rfl) (fun _ => rfl) rfl fun _ => rfl
    | ownInc =>
      show ((s.addRequests 1).goto t .done).Inv
      exact h.setThread t .done 1 rfl (by simp [BlaThread.purging]) (by rw [hth]; rfl)
    | done => exact h
    | _ => cases hthgw

/-- **A step** under the condition keeps the invariant. -/
theorem BlaReqState.Inv.step (h : s.Inv) (env : BlaEnv) {e : BlaReqEvent} (he : e.Apart s) :
    (blaReqStep env s e).Inv := by
  cases e with
  | tick => exact ⟨h.gwKeys, h.threadKeys, h.binary, h.changing, h.alone, h.purging, h.purgingAlone,
      h.count⟩
  | crc gw crc =>
    rw [blaReqStep]
    split
    · rename_i g hgw
      exact h.touchGw hgw { g with crc := crc } rfl rfl
    · exact h
  | announce t orig vid crc =>
    rw [blaReqStep]
    split_ifs with hnew
    · exact h
    · exact h.start (Option.not_isSome_iff_eq_none.1 hnew) _ rfl (by simp [BlaThread.purging]) rfl
  | own t vid =>
    rw [blaReqStep]
    split_ifs with hnew
    · exact h
    · exact h.start (Option.not_isSome_iff_eq_none.1 hnew) _ rfl (by simp [BlaThread.purging]) rfl
  | periodic t gw =>
    rw [blaReqStep]
    split
    · rename_i g hgw
      split_ifs with hnew
      · exact h
      · simp only [Bool.or_eq_true, not_or] at hnew
        exact (h.touchGw hgw { g with lasttime := s.jiffies } rfl rfl).start
          (Option.not_isSome_iff_eq_none.1 hnew.1.1) _ rfl (by simp [BlaThread.purging]) rfl
    · exact h
  | purge t gw now =>
    rw [blaReqStep]
    split
    · rename_i g hgw
      split_ifs with hnew hold
      · exact h
      · simp only [Bool.or_eq_true, not_or] at hnew
        refine h.start (Option.not_isSome_iff_eq_none.1 hnew.1.1) _ rfl (fun gw₁ hp => ?_) rfl
        obtain rfl : gw = gw₁ := Option.some.inj hp
        refine ⟨⟨g, hgw, by simpa using hnew.1.2⟩, fun t₁ th₁ h₁ hp₁ => hnew.2 ?_⟩
        -- the purge that is removing the gateway has locked its bucket
        refine List.any_eq_true.2 ⟨(t₁, th₁), Table.mem_of_get h₁, ?_⟩
        simp [hp₁, hgw]
      · exact h
    · exact h
  | step t new =>
    rw [blaReqStep]
    split
    · rename_i th hth
      refine h.threadStep env hth new fun gw g hthgw hgw => ?_
      simpa [BlaReqEvent.Apart, hth, hthgw, hgw] using he
    · exact h

/-! ### The counter -/

/-- No function is in the middle of its run. -/
def BlaReqState.Quiet (s : BlaReqState) : Prop := ∀ e ∈ s.threads, e.2 = .done

instance (s : BlaReqState) : Decidable s.Quiet :=
  inferInstanceAs (Decidable (∀ e ∈ s.threads, e.2 = .done))

/-- **The counter is the number of waiting gateways** whenever no function is in the middle of its
run, and flags are zero or one, in every state of a run whose steps all meet the condition; hence
the counter is zero when nobody waits for an answer. -/
theorem bla_requests_counted (env : BlaEnv) (jiffies : Jiffies) (primaryIf : EthAddr)
    {events : List BlaReqEvent}
    (hevents : Run.AllSteps (blaReqStep env) (fun s e => e.Apart s) (.init jiffies primaryIf)
      events) :
    ∀ s ∈ Run.states (blaReqStep env) (.init jiffies primaryIf) events,
      (∀ gw g, s.gws.get gw = some g → g.requestSent = 0 ∨ g.requestSent = 1) ∧
      (s.Quiet → s.numRequests = s.waiting) ∧
      (s.Quiet → (∀ e ∈ s.gws, e.2.hashed = true → e.2.requestSent = 0) → s.numRequests = 0) := by
  have hinit : (BlaReqState.init jiffies primaryIf).Inv := by
    refine ⟨List.nodup_nil, List.nodup_nil, ?_, ?_, ?_, ?_, ?_, rfl⟩ <;> intros <;> contradiction
  intro s hs
  have hinv := Run.AllSteps.forall_mem_states BlaReqState.Inv (fun s e h he => h.step env he) hinit
    hevents s hs
  have hcount : s.Quiet → s.numRequests = s.waiting := by
    intro hquiet
    have hdebt : Table.total BlaThread.debt s.threads = 0 :=
      Table.total_eq_zero fun e he => by rw [hquiet e he]; rfl
    rw [hinv.count, hdebt, add_zero]
    exact Table.total_eq_countP _ _
  refine ⟨hinv.binary, hcount, fun hquiet hnone => ?_⟩
  rw [hcount hquiet]
  refine Int.natCast_eq_zero.2 (List.countP_eq_zero.2 fun e he hwait => ?_)
  rw [BlaReqGw.waiting, Bool.and_eq_true] at hwait
  simp [hnone e he hwait.1] at hwait

/-- Two announcements of a gateway are handled at the same time, but the second thread finds that
the first one has sent the request; meanwhile the own gateway of the VLAN is created.  Then the
gateway's checksum is right. -/
theorem bla_requests_counted_twice :
    let env : BlaEnv := ⟨fun _ vid => vid.toNat, fun ms => BitVec.ofNat 64 ms⟩
    ∀ s ∈ Run.states (blaReqStep env) (.init 1000 0x020000000003)
        [.announce 0 0x020000000001 0x8005 7, .step 0 none, .step 0 (some 0), .own 1 0x8005,
          .announce 2 0x020000000001 0x8005 7, .step 2 none, .step 0 none, .step 2 none,
          .step 1 none, .step 0 none, .step 1 (some 1), .step 0 none, .step 1 none, .step 0 none,
          .step 2 none, .step 1 none, .step 1 none, .crc 0 7,
          .announce 3 0x020000000001 0x8005 7, .step 3 none, .step 3 none, .step 3 none,
          .periodic 4 1, .step 3 none, .step 4 none, .step 3 none, .step 4 none],
      (∀ gw g, s.gws.get gw = some g → g.requestSent = 0 ∨ g.requestSent = 1) ∧
      (s.Quiet → s.numRequests = s.waiting) ∧
      (s.Quiet → (∀ e ∈ s.gws, e.2.hashed = true → e.2.requestSent = 0) → s.numRequests = 0) :=
  bla_requests_counted ⟨fun _ vid => vid.toNat, fun ms => BitVec.ofNat 64 ms⟩ 1000 0x020000000003
    (by decide +kernel)

/-- Two threads handle announcements of a gateway at the same time, and both read that no request
was sent.  The request is counted twice: when the gateway has answered, nobody waits for an answer,
but the counter is one. -/
theorem bla_request_leaked :
    let env : BlaEnv := ⟨fun _ vid => vid.toNat, fun ms => BitVec.ofNat 64 ms⟩
    let s := Run.final (blaReqStep env) (.init 1000 0x020000000003)
      [.announce 0 0x020000000001 0x8005 7, .step 0 none, .step 0 (some 0),
        .announce 1 0x020000000001 0x8005 7, .step 1 none, .step 0 none, .step 1 none, .step 0 none,
        .step 1 none, .step 0 none, .step 0 none, .step 1 none, .step 1 none, .crc 0 7,
        .announce 2 0x020000000001 0x8005 7, .step 2 none, .step 2 none, .step 2 none, .step 2 none,
        .step 2 none]
    s.Quiet ∧ (∀ e ∈ s.gws, e.2.hashed = true → e.2.requestSent = 0) ∧ s.numRequests = 1 := by
  decide +kernel

end Batadv
