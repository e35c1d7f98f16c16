import BatmanAdv.Lib.Run
import BatmanAdv.Tvlv
import Mathlib.Algebra.BigOperators.Group.List.Basic
import Mathlib.Algebra.Order.Ring.Nat

set_option relaxedAutoImplicit false
set_option autoImplicit false

/-!
# Registered TVLV containers and the buffer they are sent in (`tvlv.c`)

A node keeps a list of the containers it wants to send.  `batadv_tvlv_container_ogm_append`
computes in one pass over the list how much room they need, a `u16`, and writes them in a second
pass behind the OGM's header.  Blocks of memory are lists of bytes here, and a read or a write
outside of a block has no result.

`batadv_tvlv_containers_process` walks over received bytes with a pointer and the number of bytes
that are left, another `u16`.  `Batadv.tvlvContainersWalk` is that loop with the places it reads.

## Main definitions

* `Batadv.TvlvContainerCall`, `Batadv.tvlvContainerStep` — registering and unregistering.
* `Batadv.tvlvRegisteredStep` — what is registered, as a map from types and versions to values.
* `Batadv.tvlvContainerOgmAppend` — `batadv_tvlv_container_ogm_append`.
* `Batadv.tvlvContainersWalk` — the loop of `batadv_tvlv_containers_process` on memory.

## Main results

* `Batadv.tvlvContainerGet_final` — the list refines the map.
* `Batadv.tvlvContainerOgmAppend_eq` — what is appended, when it is at most 65535 bytes long.
* `Batadv.tvlvContainersWalk_reads_mem` — the walk reads only bytes of the value it was given.
* `Batadv.tvlvContainersWalk_parsed` — it parses what `Batadv.tvlvContainers` parses.
* `Batadv.tvlvContainers_serialize`, `Batadv.tvlvContainersWalk_serialize` — the walk takes
  appended containers apart again and nothing remains.
-/

namespace Batadv

/-! ### The container list -/

/-- The content of a container, whose length is a `u16`. -/
abbrev TvlvValue := {value : List U8 // value.length < 2 ^ 16}

/-- What a container is registered under. -/
def TvlvContainer.key (c : TvlvContainer) : U8 × U8 := (c.type, c.version)

/-- Whether a container has the given type and version. -/
def TvlvContainer.isFor (type version : U8) (c : TvlvContainer) : Bool :=
  c.type == type && c.version == version

/-- `batadv_tvlv_container_get`. -/
def tvlvContainerGet (containerList : List TvlvContainer) (type version : U8) :
    Option TvlvContainer :=
  containerList.find? (TvlvContainer.isFor type version)

/-- `batadv_tvlv_container_remove` of the container that `batadv_tvlv_container_get` finds. -/
def tvlvContainerRemove (containerList : List TvlvContainer) (type version : U8) :
    List TvlvContainer :=
  containerList.eraseP (TvlvContainer.isFor type version)

/-- `batadv_tvlv_container_unregister`. -/
def tvlvContainerUnregister (containerList : List TvlvContainer) (type version : U8) :
    List TvlvContainer :=
  tvlvContainerRemove containerList type version

/-- `batadv_tvlv_container_register`; without a value the length is zero, and without memory for
the container nothing is registered. -/
def tvlvContainerRegister (containerList : List TvlvContainer) (type version : U8)
    (tvlvValue : Option TvlvValue) (allocated : Bool) : List TvlvContainer :=
  if !allocated then containerList
  else
    ⟨type, version, (tvlvValue.map Subtype.val).getD []⟩ ::
      tvlvContainerRemove containerList type version

/-- A call that changes the container list. -/
inductive TvlvContainerCall where
  | register (type version : U8) (tvlvValue : Option TvlvValue) (allocated : Bool)
  | unregister (type version : U8)

/-- What a call does to the container list. -/
def tvlvContainerStep (containerList : List TvlvContainer) :
    TvlvContainerCall → List TvlvContainer
  | .register type version tvlvValue allocated =>
    tvlvContainerRegister containerList type version tvlvValue allocated
  | .unregister type version => tvlvContainerUnregister containerList type version

/-- What a call means: the content registered for a type and a version is the one of the last
registration since they were unregistered. -/
def tvlvRegisteredStep (registered : U8 × U8 → Option (List U8)) :
    TvlvContainerCall → U8 × U8 → Option (List U8)
  | .register type version tvlvValue allocated =>
    if allocated then
      Function.update registered (type, version) (some ((tvlvValue.map Subtype.val).getD []))
    else registered
  | .unregister type version => Function.update registered (type, version) none

lemma TvlvContainer.isFor_iff {type version : U8} {c : TvlvContainer} :
    c.isFor type version = true ↔ c.key = (type, version) := by
  simp [TvlvContainer.isFor, TvlvContainer.key]

/-- Looking up a container of a list without duplicates finds it. -/
lemma tvlvContainerGet_eq_some_iff {containerList : List TvlvContainer}
    (hnd : (containerList.map TvlvContainer.key).Nodup) {type version : U8} {c : TvlvContainer} :
    tvlvContainerGet containerList type version = some c ↔
      c ∈ containerList ∧ c.key = (type, version) := by
  constructor
  · intro h
    exact ⟨List.mem_of_find?_eq_some h, TvlvContainer.isFor_iff.1 (List.find?_some h)⟩
  · rintro ⟨hmem, hkey⟩
    cases hget : tvlvContainerGet containerList type version with
    | none =>
      have hnot := List.find?_eq_none.1 hget c hmem
      exact absurd (TvlvContainer.isFor_iff.2 hkey) hnot
    | some d =>
      have hd : d.key = (type, version) := TvlvContainer.isFor_iff.1 (List.find?_some hget)
      have hdmem : d ∈ containerList := List.mem_of_find?_eq_some hget
      rw [List.inj_on_of_nodup_map hnd hdmem hmem (hd.trans hkey.symm)]

/-- Removing a container leaves the others. -/
lemma mem_tvlvContainerRemove {containerList : List TvlvContainer}
    (hnd : (containerList.map TvlvContainer.key).Nodup) {type version : U8} {c : TvlvContainer} :
    c ∈ tvlvContainerRemove containerList type version ↔
      c ∈ containerList ∧ c.key ≠ (type, version) := by
  induction containerList with
  | nil => simp [tvlvContainerRemove]
  | cons d ds ih =>
    rw [List.map_cons, List.nodup_cons] at hnd
    unfold tvlvContainerRemove at ih ⊢
    by_cases hd : d.isFor type version = true
    · rw [List.eraseP_cons_of_pos hd]
      rw [TvlvContainer.isFor_iff] at hd
      constructor
      · intro hc
        refine ⟨List.mem_cons_of_mem _ hc, fun hk => hnd.1 ?_⟩
        rw [hd, ← hk]
        exact List.mem_map_of_mem hc
      · rintro ⟨hc, hk⟩
        rcases List.mem_cons.1 hc with rfl | hc
        · exact absurd hd hk
        · exact hc
    · rw [List.eraseP_cons_of_neg hd, List.mem_cons, List.mem_cons, ih hnd.2]
      rw [TvlvContainer.isFor_iff] at hd
      constructor
      · rintro (rfl | ⟨hc, hk⟩)
        · exact ⟨Or.inl rfl, hd⟩
        · exact ⟨Or.inr hc, hk⟩
      · rintro ⟨rfl | hc, hk⟩
        · exact Or.inl rfl
        · exact Or.inr ⟨hc, hk⟩

/-- Every call keeps the types and versions of the list apart. -/
lemma nodup_tvlvContainerStep {containerList : List TvlvContainer}
    (hnd : (containerList.map TvlvContainer.key).Nodup) (call : TvlvContainerCall) :
    ((tvlvContainerStep containerList call).map TvlvContainer.key).Nodup := by
  have hremove (type version : U8) :
      ((tvlvContainerRemove containerList type version).map TvlvContainer.key).Nodup :=
    hnd.sublist (List.eraseP_sublist.map _)
  cases call with
  | unregister type version => exact hremove type version
  | register type version tvlvValue allocated =>
    cases allocated with
    | false => exact hnd
    | true =>
      refine List.nodup_cons.2 ⟨fun hmem => ?_, hremove type version⟩
      obtain ⟨c, hc, hkey⟩ := List.mem_map.1 hmem
      exact ((mem_tvlvContainerRemove hnd).1 hc).2 hkey

/-- One call does to the list what it means for the registered content. -/
lemma tvlvContainerGet_step {containerList : List TvlvContainer}
    (hnd : (containerList.map TvlvContainer.key).Nodup)
    {registered : U8 × U8 → Option (List U8)}
    (h : ∀ k, (tvlvContainerGet containerList k.1 k.2).map TvlvContainer.value = registered k)
    (call : TvlvContainerCall) (k : U8 × U8) :
    (tvlvContainerGet (tvlvContainerStep containerList call) k.1 k.2).map TvlvContainer.value =
      tvlvRegisteredStep registered call k := by
  -- what is found after a container was removed
  have hremove (type version : U8) :
      (tvlvContainerGet (tvlvContainerRemove containerList type version) k.1 k.2).map
        TvlvContainer.value = Function.update registered (type, version) none k := by
    have hnd' := nodup_tvlvContainerStep hnd (.unregister type version)
    by_cases hk : k = (type, version)
    · subst hk
      rw [Function.update_self, Option.map_eq_none_iff, Option.eq_none_iff_forall_ne_some]
      intro c hc
      obtain ⟨hmem, hkey⟩ := (tvlvContainerGet_eq_some_iff hnd').1 hc
      exact ((mem_tvlvContainerRemove hnd).1 hmem).2 hkey
    · rw [Function.update_of_ne hk, ← h k]
      congr 1
      refine Option.ext fun c => ?_
      refine (tvlvContainerGet_eq_some_iff hnd').trans
        (Iff.trans ?_ (tvlvContainerGet_eq_some_iff hnd).symm)
      refine Iff.trans (and_congr_left' (mem_tvlvContainerRemove hnd)) ?_
      constructor
      · rintro ⟨⟨hmem, -⟩, hkey⟩
        exact ⟨hmem, hkey⟩
      · rintro ⟨hmem, hkey⟩
        exact ⟨⟨hmem, fun hother => hk (hkey.symm.trans hother)⟩, hkey⟩
  cases call with
  | unregister type version => exact hremove type version
  | register type version tvlvValue allocated =>
    cases allocated with
    | false => exact h k
    | true =>
      simp only [tvlvContainerStep, tvlvContainerRegister, tvlvContainerGet, tvlvRegisteredStep,
        Bool.not_true, Bool.false_eq_true, if_false, if_true]
      by_cases hk : k = (type, version)
      · subst hk
        rw [Function.update_self, List.find?_cons_of_pos (by simp [TvlvContainer.isFor])]
        rfl
      · have hnot : ¬ (⟨type, version, (tvlvValue.map Subtype.val).getD []⟩ :
            TvlvContainer).isFor k.1 k.2 = true := by
          rw [TvlvContainer.isFor_iff]
          exact fun heq => hk heq.symm
        rw [Function.update_of_ne hk, List.find?_cons_of_neg hnot]
        exact (hremove type version).trans (Function.update_of_ne hk _ _)

/-- The types and versions of a list that was built by calls are all different. -/
lemma nodup_final_tvlvContainerStep (calls : List TvlvContainerCall) :
    ((Run.final tvlvContainerStep [] calls).map TvlvContainer.key).Nodup :=
  Run.AllSteps.invariant (P := fun _ _ => True)
    (fun l : List TvlvContainer => (l.map TvlvContainer.key).Nodup)
    (fun _ call hnd _ => nodup_tvlvContainerStep hnd call) (s := []) List.nodup_nil
    (Run.AllSteps.of_forall (fun _ _ => trivial) calls)

/-- **The container list refines the map**: after any calls it holds exactly the content that is
registered.

**Proof sketch.** Induction on the calls, with the list and the map general. -/
theorem tvlvContainerGet_final (calls : List TvlvContainerCall) (k : U8 × U8) :
    (tvlvContainerGet (Run.final tvlvContainerStep [] calls) k.1 k.2).map TvlvContainer.value =
      Run.final tvlvRegisteredStep (fun _ => none) calls k := by
  suffices hgen : ∀ (l : List TvlvContainer) (registered : U8 × U8 → Option (List U8)),
      (l.map TvlvContainer.key).Nodup →
      (∀ k, (tvlvContainerGet l k.1 k.2).map TvlvContainer.value = registered k) →
      (tvlvContainerGet (Run.final tvlvContainerStep l calls) k.1 k.2).map TvlvContainer.value =
        Run.final tvlvRegisteredStep registered calls k from
    hgen [] (fun _ => none) List.nodup_nil fun _ => rfl
  induction calls with
  | nil => exact fun l registered _ h => h k
  | cons call calls ih =>
    intro l registered hnd h
    exact ih _ _ (nodup_tvlvContainerStep hnd call) (tvlvContainerGet_step hnd h call)

/-! ### Appending the containers to a packet buffer -/

/-- The header of a container as it is sent: type, version, and the length in network byte
order. -/
def TvlvContainer.hdr (c : TvlvContainer) : List U8 :=
  let len : U16 := BitVec.ofNat 16 c.value.length
  [c.type, c.version, len.extractLsb' 8 8, len.extractLsb' 0 8]

/-- `batadv_tvlv_container_list_size`: the room the containers need, summed up in a `u16`. -/
def tvlvContainerListSize (containerList : List TvlvContainer) : U16 :=
  containerList.foldl (fun tvlvLen c => tvlvLen + 4 + BitVec.ofNat 16 c.value.length) 0

/-- Read `len` bytes of a block of memory. -/
def blockRead (block : List U8) (off len : ℕ) : Option (List U8) :=
  if off + len ≤ block.length then some ((block.drop off).take len) else none

/-- Write bytes into a block of memory. -/
def blockWrite (block : List U8) (off : ℕ) (bytes : List U8) : Option (List U8) :=
  if off + bytes.length ≤ block.length then
    some (block.take off ++ (bytes ++ block.drop (off + bytes.length)))
  else none

/-- `batadv_tvlv_realloc_packet_buff`: a larger or smaller buffer with the same beginning, or the
old one when there is no memory.  `fresh` is what newly allocated memory holds, if there is
any. -/
def tvlvReallocPacketBuff (packetBuff : List U8) (minPacketLen additionalPacketLen : ℕ)
    (fresh : Option (ℕ → U8)) : Option (List U8 × Bool) :=
  match fresh with
  | none => some (packetBuff, false)
  | some fresh => do
    let newBuff := (List.range (minPacketLen + additionalPacketLen)).map fresh
    let start ← blockRead packetBuff 0 minPacketLen
    let newBuff ← blockWrite newBuff 0 start
    return (newBuff, true)

/-- One turn of the loop of `batadv_tvlv_container_ogm_append`: the header and then the content of
a container are written where the last one ended. -/
def tvlvContainerWrite (pos : List U8 × ℕ) (c : TvlvContainer) : Option (List U8 × ℕ) := do
  let buff ← blockWrite pos.1 pos.2 c.hdr
  let buff ← blockWrite buff (pos.2 + 4) c.value
  return (buff, pos.2 + 4 + c.value.length)

/-- `batadv_tvlv_container_ogm_append`: the new packet buffer and the size of the containers. -/
def tvlvContainerOgmAppend (containerList : List TvlvContainer) (fresh : Option (ℕ → U8))
    (packetBuff : List U8) (packetMinLen : ℕ) : Option (List U8 × U16) := do
  let tvlvValueLen := tvlvContainerListSize containerList
  let (packetBuff, ret) ←
    tvlvReallocPacketBuff packetBuff packetMinLen tvlvValueLen.toNat fresh
  if !ret then return (packetBuff, tvlvValueLen)
  if tvlvValueLen = 0 then return (packetBuff, tvlvValueLen)
  let (packetBuff, _) ← containerList.foldlM tvlvContainerWrite (packetBuff, packetMinLen)
  return (packetBuff, tvlvValueLen)

/-- A container as it is sent. -/
def TvlvContainer.bytes (c : TvlvContainer) : List U8 := c.hdr ++ c.value

/-- The containers of a list as they are sent. -/
def tvlvSerialize (containerList : List TvlvContainer) : List U8 :=
  containerList.flatMap TvlvContainer.bytes

@[simp] lemma TvlvContainer.length_hdr (c : TvlvContainer) : c.hdr.length = 4 := rfl

@[simp] lemma tvlvSerialize_nil : tvlvSerialize [] = [] := rfl

@[simp] lemma tvlvSerialize_cons (c : TvlvContainer) (cs : List TvlvContainer) :
    tvlvSerialize (c :: cs) = c.hdr ++ c.value ++ tvlvSerialize cs := by
  simp [tvlvSerialize, TvlvContainer.bytes]

/-- The first pass computes the size of what the second pass writes, modulo `2 ^ 16`. -/
lemma tvlvContainerListSize_eq (containerList : List TvlvContainer) :
    tvlvContainerListSize containerList = BitVec.ofNat 16 (tvlvSerialize containerList).length := by
  suffices hgen : ∀ start : U16,
      containerList.foldl (fun tvlvLen c => tvlvLen + 4 + BitVec.ofNat 16 c.value.length) start =
        start + BitVec.ofNat 16 (tvlvSerialize containerList).length by
    simpa [tvlvContainerListSize] using hgen 0
  induction containerList with
  | nil => simp
  | cons c cs ih =>
    intro start
    rw [List.foldl_cons, ih]
    simp only [tvlvSerialize_cons, List.length_append, TvlvContainer.length_hdr,
      BitVec.ofNat_add]
    ac_rfl

/-- Writing bytes to where a block has not been written yet. -/
lemma blockWrite_append {written bytes rest : List U8} (h : bytes.length ≤ rest.length) :
    blockWrite (written ++ rest) written.length bytes =
      some (written ++ bytes ++ rest.drop bytes.length) := by
  have hfits : written.length + bytes.length ≤ (written ++ rest).length := by
    rw [List.length_append]
    omega
  rw [blockWrite, if_pos hfits, List.take_left, List.drop_append, ← List.append_assoc]
  have hpast : written.drop (written.length + bytes.length) = [] :=
    List.drop_eq_nil_of_le (by omega)
  rw [hpast, List.nil_append]
  congr 3
  omega

/-- The second pass writes the containers one behind the other, if there is room for them.

**Proof sketch.** Induction on the containers; what has been written so far is general. -/
lemma foldlM_tvlvContainerWrite (containerList : List TvlvContainer) (written rest : List U8)
    (h : (tvlvSerialize containerList).length ≤ rest.length) :
    containerList.foldlM tvlvContainerWrite (written ++ rest, written.length) =
      some (written ++ tvlvSerialize containerList ++
          rest.drop (tvlvSerialize containerList).length,
        written.length + (tvlvSerialize containerList).length) := by
  induction containerList generalizing written rest with
  | nil => simp
  | cons c cs ih =>
    simp only [tvlvSerialize_cons, List.length_append, TvlvContainer.length_hdr] at h
    have hhdr : blockWrite (written ++ rest) written.length c.hdr =
        some (written ++ c.hdr ++ rest.drop 4) :=
      blockWrite_append (by rw [TvlvContainer.length_hdr]; omega)
    have hvalue : blockWrite (written ++ c.hdr ++ rest.drop 4) (written.length + 4) c.value =
        some (written ++ c.hdr ++ c.value ++ (rest.drop 4).drop c.value.length) := by
      have hlen : written.length + 4 = (written ++ c.hdr).length := by simp
      rw [hlen]
      exact blockWrite_append (by rw [List.length_drop]; omega)
    have hnext := ih (written ++ c.hdr ++ c.value) ((rest.drop 4).drop c.value.length)
      (by rw [List.length_drop, List.length_drop]; omega)
    have hoff : (written ++ c.hdr ++ c.value).length = written.length + 4 + c.value.length := by
      simp [Nat.add_assoc]
    rw [hoff] at hnext
    simp only [List.foldlM_cons, tvlvContainerWrite, hhdr, hvalue, Option.bind_eq_bind,
      Option.bind_some, Option.pure_def]
    rw [hnext, tvlvSerialize_cons]
    simp only [List.drop_drop, List.append_assoc, List.length_append, TvlvContainer.length_hdr,
      Nat.add_assoc]

/-- **What is appended**: behind the OGM's header stand the containers, and the number returned
is their size, provided that the size fits the `u16` it is computed in. -/
theorem tvlvContainerOgmAppend_eq {containerList : List TvlvContainer} {packetBuff : List U8}
    {packetMinLen : ℕ} (fresh : ℕ → U8) (hmin : packetMinLen ≤ packetBuff.length)
    (hsize : (tvlvSerialize containerList).length ≤ 65535) :
    tvlvContainerOgmAppend containerList (some fresh) packetBuff packetMinLen =
      some (packetBuff.take packetMinLen ++ tvlvSerialize containerList,
        BitVec.ofNat 16 (tvlvSerialize containerList).length) := by
  set total := (tvlvSerialize containerList).length with htotal
  have hlen : (tvlvContainerListSize containerList).toNat = total := by
    rw [tvlvContainerListSize_eq, BitVec.toNat_ofNat, ← htotal]
    omega
  set start := packetBuff.take packetMinLen with hstart
  have hstartLen : start.length = packetMinLen := by rw [hstart, List.length_take]; omega
  set room := ((List.range (packetMinLen + total)).map fresh).drop packetMinLen with hroom
  have hroomLen : room.length = total := by
    rw [hroom, List.length_drop, List.length_map, List.length_range]
    omega
  have hread : blockRead packetBuff 0 packetMinLen = some start := by
    rw [blockRead, if_pos (by omega), List.drop_zero]
  have hcopy : blockWrite ((List.range (packetMinLen + total)).map fresh) 0 start =
      some (start ++ room) := by
    have hfits : 0 + start.length ≤ ((List.range (packetMinLen + total)).map fresh).length := by
      rw [List.length_map, List.length_range]
      omega
    rw [blockWrite, if_pos hfits, List.take_zero, List.nil_append, Nat.zero_add, hstartLen]
  have hrealloc : tvlvReallocPacketBuff packetBuff packetMinLen total (some fresh) =
      some (start ++ room, true) := by
    simp only [tvlvReallocPacketBuff, hread, Option.bind_eq_bind, Option.bind_some, hcopy,
      Option.pure_def]
  have hwrite := foldlM_tvlvContainerWrite containerList start room (by omega)
  rw [hstartLen, List.drop_eq_nil_of_le (by omega), List.append_nil] at hwrite
  unfold tvlvContainerOgmAppend
  simp only [hlen, hrealloc, Option.bind_eq_bind, Option.bind_some, Bool.not_true,
    Bool.false_eq_true, if_false, hwrite, Option.pure_def]
  rw [tvlvContainerListSize_eq, ← htotal]
  split_ifs with hzero
  · -- there is nothing to append, so the list is empty
    have hnil : total = 0 := by rw [← hlen, tvlvContainerListSize_eq, hzero]; rfl
    have hser : tvlvSerialize containerList = [] := List.length_eq_zero_iff.1 hnil
    have hroomNil : room = [] := List.length_eq_zero_iff.1 (by omega)
    rw [hser, hroomNil]
  · rfl

/-- Without memory the buffer is kept as it was. -/
lemma tvlvContainerOgmAppend_of_no_memory (containerList : List TvlvContainer)
    (packetBuff : List U8) (packetMinLen : ℕ) :
    tvlvContainerOgmAppend containerList none packetBuff packetMinLen =
      some (packetBuff, tvlvContainerListSize containerList) := rfl

/-! ### The walk over received bytes -/

/-- The bytes of memory from an address on. -/
def memBytes (mem : ℕ → U8) : ℕ → ℕ → List U8
  | _, 0 => []
  | off, len + 1 => mem off :: memBytes mem (off + 1) len

/-- A container in memory: the address of its header, and the length that stands there. -/
structure TvlvExtent where
  off : ℕ
  contLen : U16

/-- The container that lies there. -/
def TvlvExtent.container (mem : ℕ → U8) (e : TvlvExtent) : TvlvContainer :=
  ⟨mem e.off, mem (e.off + 1), memBytes mem (e.off + 4) e.contLen.toNat⟩

/-- What the walk does: the containers it hands on, the stretches of memory that it or a handler
reads, as an address and a length, and the number of bytes that are left when it stops. -/
structure TvlvWalk where
  parsed : List TvlvExtent
  reads : List (ℕ × ℕ)
  rest : U16

/-- The loop of `batadv_tvlv_containers_process` with its pointer `tvlv_value`, here `off`, and
the `u16` number of bytes `tvlv_value_len`, from which the lengths are subtracted. -/
def tvlvContainersWalk (mem : ℕ → U8) : ℕ → ℕ → U16 → TvlvWalk
  | 0, _, tvlvValueLen => ⟨[], [], tvlvValueLen⟩
  | fuel + 1, off, tvlvValueLen =>
    if tvlvValueLen.toNat < 4 then ⟨[], [], tvlvValueLen⟩
    else
      let contLen : U16 := mem (off + 2) ++ mem (off + 3)
      let tvlvValueLen := tvlvValueLen - 4
      if tvlvValueLen.toNat < contLen.toNat then ⟨[], [(off, 4)], tvlvValueLen⟩
      else
        let walk :=
          tvlvContainersWalk mem fuel (off + 4 + contLen.toNat) (tvlvValueLen - contLen)
        { parsed := ⟨off, contLen⟩ :: walk.parsed
          reads := (off, 4) :: (off + 4, contLen.toNat) :: walk.reads
          rest := walk.rest }

@[simp] lemma length_memBytes (mem : ℕ → U8) (off len : ℕ) :
    (memBytes mem off len).length = len := by
  induction len generalizing off with
  | zero => rfl
  | succ len ih => rw [memBytes, List.length_cons, ih]

lemma memBytes_add (mem : ℕ → U8) (off len₁ len₂ : ℕ) :
    memBytes mem off (len₁ + len₂) = memBytes mem off len₁ ++ memBytes mem (off + len₁) len₂ := by
  induction len₁ generalizing off with
  | zero => simp [memBytes]
  | succ len₁ ih =>
    have hlen : len₁ + 1 + len₂ = len₁ + len₂ + 1 := by omega
    have hoff : off + (len₁ + 1) = off + 1 + len₁ := by omega
    rw [hlen, hoff, memBytes, memBytes, ih, List.cons_append]

/-- A subtraction of the walk does not wrap around. -/
lemma toNat_sub_of_le_u16 {x y : U16} (h : y.toNat ≤ x.toNat) :
    (x - y).toNat = x.toNat - y.toNat := by
  rw [BitVec.toNat_sub]
  omega

/-- The number of bytes that are left behind a header. -/
lemma toNat_sub_four {x : U16} (h : ¬ x.toNat < 4) : (x - 4).toNat = x.toNat - 4 :=
  toNat_sub_of_le_u16 (y := 4) (by simpa using h)

/-- **The walk stays inside** the value, whatever bytes are there: every stretch of memory that is
read lies in it.

**Proof sketch.** Induction on the fuel.  The rest of the value begins where the container ends
and is shorter by the container's size, since neither subtraction wraps around. -/
theorem tvlvContainersWalk_reads_mem (mem : ℕ → U8) (fuel off : ℕ) (tvlvValueLen : U16)
    {stretch : ℕ × ℕ} (h : stretch ∈ (tvlvContainersWalk mem fuel off tvlvValueLen).reads) :
    off ≤ stretch.1 ∧ stretch.1 + stretch.2 ≤ off + tvlvValueLen.toNat := by
  induction fuel generalizing off tvlvValueLen with
  | zero => simp [tvlvContainersWalk] at h
  | succ fuel ih =>
    unfold tvlvContainersWalk at h
    dsimp only at h
    split_ifs at h with hhdr hcont
    · simp at h
    · rw [List.mem_singleton] at h
      subst h
      exact ⟨le_rfl, by omega⟩
    · have hfour := toNat_sub_four hhdr
      have hrest := toNat_sub_of_le_u16 (Nat.le_of_not_lt hcont)
      rcases List.mem_cons.1 h with rfl | h
      · exact ⟨le_rfl, by omega⟩
      rcases List.mem_cons.1 h with rfl | h
      · exact ⟨by omega, by omega⟩
      · obtain ⟨hlow, hhigh⟩ := ih _ _ h
        exact ⟨by omega, by omega⟩

/-- Enough fuel is enough: the length of the value bounds the number of turns. -/
lemma tvlvContainersWalk_fuel (mem : ℕ → U8) {fuel₁ fuel₂ : ℕ} (off : ℕ) {tvlvValueLen : U16}
    (h₁ : tvlvValueLen.toNat ≤ fuel₁) (h₂ : tvlvValueLen.toNat ≤ fuel₂) :
    tvlvContainersWalk mem fuel₁ off tvlvValueLen =
      tvlvContainersWalk mem fuel₂ off tvlvValueLen := by
  induction fuel₁ generalizing fuel₂ off tvlvValueLen with
  | zero =>
    cases fuel₂ with
    | zero => rfl
    | succ fuel₂ => rw [tvlvContainersWalk, tvlvContainersWalk, if_pos (by omega)]
  | succ fuel₁ ih =>
    cases fuel₂ with
    | zero => rw [tvlvContainersWalk, tvlvContainersWalk, if_pos (by omega)]
    | succ fuel₂ =>
      rw [tvlvContainersWalk, tvlvContainersWalk]
      dsimp only
      split_ifs with hhdr hcont
      · rfl
      · rfl
      · have hfour := toNat_sub_four hhdr
        have hrest := toNat_sub_of_le_u16 (Nat.le_of_not_lt hcont)
        set left := tvlvValueLen - 4 - (mem (off + 2) ++ mem (off + 3))
        have hleft : left.toNat ≤ fuel₂ := by omega
        rw [ih _ (by omega) hleft]

/-- **The walk parses the containers of the value's bytes.**

**Proof sketch.** Induction on the fuel.  The bytes of the value are the four of the header, those
of the content and the rest. -/
theorem tvlvContainersWalk_parsed (mem : ℕ → U8) (fuel off : ℕ) (tvlvValueLen : U16) :
    (tvlvContainersWalk mem fuel off tvlvValueLen).parsed.map (TvlvExtent.container mem) =
      tvlvContainers fuel (memBytes mem off tvlvValueLen.toNat) := by
  induction fuel generalizing off tvlvValueLen with
  | zero => rfl
  | succ fuel ih =>
    unfold tvlvContainersWalk
    dsimp only
    split_ifs with hhdr hcont
    · -- fewer than four bytes are left
      have hshort : tvlvValueLen.toNat = 0 ∨ tvlvValueLen.toNat = 1 ∨ tvlvValueLen.toNat = 2 ∨
          tvlvValueLen.toNat = 3 := by omega
      rcases hshort with h | h | h | h <;> rw [h] <;> rfl
    all_goals
      have hfour := toNat_sub_four hhdr
      have hlen : tvlvValueLen.toNat = (tvlvValueLen - 4).toNat + 1 + 1 + 1 + 1 := by omega
      rw [hlen]
      simp only [memBytes, tvlvContainers, length_memBytes, hcont, if_true, if_false,
        List.map_nil, List.map_cons, Nat.add_assoc, Nat.reduceAdd]
    · have hrest := toNat_sub_of_le_u16 (Nat.le_of_not_lt hcont)
      have hsplit := memBytes_add mem (off + 4) (mem (off + 2) ++ mem (off + 3)).toNat
        (tvlvValueLen - 4 - (mem (off + 2) ++ mem (off + 3))).toNat
      have hwhole : (mem (off + 2) ++ mem (off + 3)).toNat +
          (tvlvValueLen - 4 - (mem (off + 2) ++ mem (off + 3))).toNat =
            (tvlvValueLen - 4).toNat := by omega
      rw [hwhole] at hsplit
      rw [ih, hsplit, List.take_left' (length_memBytes _ _ _),
        List.drop_left' (length_memBytes _ _ _), TvlvExtent.container, Nat.add_assoc]

/-! ### Walking over appended containers -/

/-- The two bytes of the length field put together are the length. -/
lemma length_bytes_append (len : U16) : len.extractLsb' 8 8 ++ len.extractLsb' 0 8 = len := by
  rw [BitVec.extractLsb'_append_extractLsb'_eq_extractLsb' (by rfl)]
  simp

/-- The content of each container of a list that takes up at most 65535 bytes has a length that
fits its length field. -/
lemma length_value_lt {containerList : List TvlvContainer}
    (hsize : (tvlvSerialize containerList).length ≤ 65535) :
    ∀ c ∈ containerList, c.value.length < 2 ^ 16 := by
  induction containerList with
  | nil => simp
  | cons c cs ih =>
    simp only [tvlvSerialize_cons, List.length_append, TvlvContainer.length_hdr] at hsize
    rw [List.forall_mem_cons]
    exact ⟨by omega, ih (by omega)⟩

/-- **The walk takes appended containers apart again.** -/
theorem tvlvContainers_serialize {containerList : List TvlvContainer} {fuel : ℕ}
    (hlen : ∀ c ∈ containerList, c.value.length < 2 ^ 16)
    (hfuel : (tvlvSerialize containerList).length ≤ fuel) :
    tvlvContainers fuel (tvlvSerialize containerList) = containerList := by
  induction containerList generalizing fuel with
  | nil => cases fuel <;> rfl
  | cons c cs ih =>
    rw [List.forall_mem_cons] at hlen
    simp only [tvlvSerialize_cons, List.length_append, TvlvContainer.length_hdr] at hfuel
    obtain ⟨fuel, rfl⟩ : ∃ n, fuel = n + 1 := ⟨fuel - 1, by omega⟩
    have hcont : (BitVec.ofNat 16 c.value.length).toNat = c.value.length := by
      rw [BitVec.toNat_ofNat, Nat.mod_eq_of_lt hlen.1]
    have hfits : ¬ (c.value ++ tvlvSerialize cs).length < c.value.length := by
      rw [List.length_append]
      omega
    simp only [tvlvSerialize_cons, TvlvContainer.hdr, List.cons_append, List.nil_append,
      tvlvContainers, length_bytes_append, hcont]
    rw [if_neg hfits, List.take_left, List.drop_left, ih hlen.2 (by omega)]

/-- **Nothing remains** when the walk has taken appended containers apart.

**Proof sketch.** Induction on the containers: the four bytes of the first header give the length
of its content, behind which the bytes of the others begin. -/
theorem tvlvContainersWalk_serialize {mem : ℕ → U8} {containerList : List TvlvContainer}
    {fuel off : ℕ} {tvlvValueLen : U16}
    (hmem : memBytes mem off tvlvValueLen.toNat = tvlvSerialize containerList)
    (hlen : ∀ c ∈ containerList, c.value.length < 2 ^ 16)
    (hfuel : tvlvValueLen.toNat ≤ fuel) :
    (tvlvContainersWalk mem fuel off tvlvValueLen).rest = 0 := by
  induction containerList generalizing fuel off tvlvValueLen with
  | nil =>
    have hzero : tvlvValueLen.toNat = 0 := by
      rw [← length_memBytes mem off tvlvValueLen.toNat, hmem]
      rfl
    cases fuel with
    | zero => exact BitVec.eq_of_toNat_eq hzero
    | succ fuel =>
      rw [tvlvContainersWalk, if_pos (by omega)]
      exact BitVec.eq_of_toNat_eq hzero
  | cons c cs ih =>
    rw [List.forall_mem_cons] at hlen
    have htotal : tvlvValueLen.toNat = 4 + c.value.length + (tvlvSerialize cs).length := by
      have hlength := congrArg List.length hmem
      simpa [Nat.add_assoc] using hlength
    obtain ⟨fuel, rfl⟩ : ∃ n, fuel = n + 1 := ⟨fuel - 1, by omega⟩
    have hcont : (BitVec.ofNat 16 c.value.length).toNat = c.value.length := by
      rw [BitVec.toNat_ofNat, Nat.mod_eq_of_lt hlen.1]
    have hfour := toNat_sub_four (x := tvlvValueLen) (by omega)
    -- the bytes of the header, of the content and of the other containers
    have hbytes : memBytes mem off (4 + c.value.length + (tvlvSerialize cs).length) =
        c.hdr ++ c.value ++ tvlvSerialize cs := by rw [← htotal, hmem, tvlvSerialize_cons]
    rw [memBytes_add, memBytes_add] at hbytes
    obtain ⟨hfront, hrest⟩ := List.append_inj hbytes (by simp)
    obtain ⟨hhdr, -⟩ := List.append_inj hfront (by simp)
    simp only [memBytes, TvlvContainer.hdr, List.cons.injEq, and_true, Nat.add_assoc,
      Nat.reduceAdd] at hhdr
    obtain ⟨-, -, hhi, hlo⟩ := hhdr
    have hcontLen : mem (off + 2) ++ mem (off + 3) = BitVec.ofNat 16 c.value.length := by
      rw [hhi, hlo, length_bytes_append]
    rw [tvlvContainersWalk, if_neg (by omega)]
    dsimp only
    rw [hcontLen, hcont, if_neg (by omega)]
    have hsub := toNat_sub_of_le_u16 (x := tvlvValueLen - 4)
      (y := BitVec.ofNat 16 c.value.length) (by omega)
    refine ih ?_ hlen.2 (by omega)
    rw [Nat.add_assoc off 4]
    rw [← hrest]
    congr 1
    omega

end Batadv
