import BatmanAdv.Tvlv.Container

set_option relaxedAutoImplicit false
set_option autoImplicit false

/-!
# The TVLV codec from the container list to the handlers (`tvlv.c`)

The bytes that `batadv_tvlv_container_ogm_append` puts behind an OGM's header are processed by
`batadv_tvlv_containers_process` at another node, with whatever handlers are registered there and
whatever OGMs were processed before.  The handlers that are due are those of the registered
containers, with the registered contents, and those that asked to be told that theirs is missing.

A handler carries the flag `BATADV_TVLV_HANDLER_OGM_CALLED` only while an OGM is processed:
every processing clears the flags that it set.

## Main definitions

* `Batadv.TvlvHandlerEvent`, `Batadv.tvlvHandlerStep` — registering and unregistering handlers and
  processing OGMs.
* `Batadv.TvlvInvocation`, `Batadv.TvlvInvocation.Due` — a call of a handler, and when it is due.
* `Batadv.TvlvRunsDue` — a processing runs what is due and nothing else.

## Main results

* `Batadv.tvlvContainersProcess_handlerList` — a processing leaves the handlers as they were.
* `Batadv.tvlvContainersProcess_runsDue` — what runs for a buffer of containers.
* `Batadv.tvlv_round_trip` — appending and processing are inverse to each other.
-/

namespace Batadv

variable {σ : Type*}

/-! ### The handler list -/

/-- The flags a handler can be registered with.  `BATADV_TVLV_HANDLER_OGM_CALLED` is set by the
API itself. -/
abbrev TvlvHandlerFlags := {flags : U8 // flags &&& TVLV_HANDLER_OGM_CALLED = 0}

/-- `batadv_tvlv_handler_register`: nothing happens when there is a handler for the type and the
version already, or no memory for a new one. -/
def tvlvHandlerRegister (handlerList : List (TvlvHandler σ))
    (optr : Option (σ → U8 → List U8 → σ)) (type version : U8) (flags : TvlvHandlerFlags)
    (allocated : Bool) : List (TvlvHandler σ) :=
  match tvlvHandlerGet handlerList type version with
  | some _ => handlerList
  | none => if !allocated then handlerList else ⟨type, version, flags, optr⟩ :: handlerList

/-- `batadv_tvlv_handler_unregister`. -/
def tvlvHandlerUnregister (handlerList : List (TvlvHandler σ)) (type version : U8) :
    List (TvlvHandler σ) :=
  handlerList.eraseP (TvlvHandler.isFor type version)

/-- What happens to the handler list: a handler is registered or unregistered, or the TVLV buffer
of an OGM is processed, whatever the handlers find at that time. -/
inductive TvlvHandlerEvent (σ : Type*) where
  | register (optr : Option (σ → U8 → List U8 → σ)) (type version : U8)
      (flags : TvlvHandlerFlags) (allocated : Bool)
  | unregister (type version : U8)
  | receive (ctx : σ) (tvlvValue : List U8)

/-- The handler list after an event. -/
def tvlvHandlerStep (handlerList : List (TvlvHandler σ)) :
    TvlvHandlerEvent σ → List (TvlvHandler σ)
  | .register optr type version flags allocated =>
    tvlvHandlerRegister handlerList optr type version flags allocated
  | .unregister type version => tvlvHandlerUnregister handlerList type version
  | .receive ctx tvlvValue => (tvlvContainersProcess ctx handlerList tvlvValue).handlerList

/-- What a handler is registered under. -/
def TvlvHandler.key (h : TvlvHandler σ) : U8 × U8 := (h.type, h.version)

/-- A handler list between two processings: one handler for each type and version, and none of
them marked as called. -/
structure TvlvHandlersIdle (handlerList : List (TvlvHandler σ)) : Prop where
  nodup : (handlerList.map TvlvHandler.key).Nodup
  notCalled : ∀ h ∈ handlerList, h.flags &&& TVLV_HANDLER_OGM_CALLED = 0

/-- The handler once it has been called. -/
def TvlvHandler.marked (h : TvlvHandler σ) : TvlvHandler σ :=
  { h with flags := h.flags ||| TVLV_HANDLER_OGM_CALLED }

/-- What the second loop makes of a handler. -/
def TvlvHandler.cleared (h : TvlvHandler σ) : TvlvHandler σ :=
  if h.ogmHandler.isSome then { h with flags := h.flags &&& ~~~TVLV_HANDLER_OGM_CALLED } else h

/-- The handlers of a list, some of them marked as called. -/
def tvlvMarkWhere (p : TvlvHandler σ → Bool) (handlerList : List (TvlvHandler σ)) :
    List (TvlvHandler σ) :=
  handlerList.map fun h => if h.ogmHandler.isSome && p h then h.marked else h

lemma TvlvHandler.isFor_iff {type version : U8} {h : TvlvHandler σ} :
    h.isFor type version = true ↔ h.key = (type, version) := by
  simp [TvlvHandler.isFor, TvlvHandler.key]

@[simp] lemma TvlvHandler.key_marked (h : TvlvHandler σ) : h.marked.key = h.key := rfl

@[simp] lemma TvlvHandler.isFor_marked (h : TvlvHandler σ) (type version : U8) :
    h.marked.isFor type version = h.isFor type version := rfl

@[simp] lemma TvlvHandler.ogmHandler_marked (h : TvlvHandler σ) :
    h.marked.ogmHandler = h.ogmHandler := rfl

/-- A handler that was called is marked, whether or not it was marked before. -/
lemma TvlvHandler.flags_marked_and (h : TvlvHandler σ) :
    h.marked.flags &&& TVLV_HANDLER_OGM_CALLED ≠ 0 := by
  have hall : ∀ flags : U8,
      (flags ||| TVLV_HANDLER_OGM_CALLED) &&& TVLV_HANDLER_OGM_CALLED ≠ 0 := by
    decide
  exact hall h.flags

/-- Marking twice is marking once. -/
@[simp] lemma TvlvHandler.marked_marked (h : TvlvHandler σ) : h.marked.marked = h.marked := by
  simp [TvlvHandler.marked, BitVec.or_assoc]

/-- The second loop takes a mark away, and leaves a handler without a mark as it is. -/
lemma TvlvHandler.cleared_ite {h : TvlvHandler σ} (hidle : h.flags &&& TVLV_HANDLER_OGM_CALLED = 0)
    (b : Bool) : (if h.ogmHandler.isSome && b then h.marked else h).cleared = h := by
  have hclear : ∀ flags : U8, flags &&& TVLV_HANDLER_OGM_CALLED = 0 →
      flags &&& ~~~TVLV_HANDLER_OGM_CALLED = flags ∧
        (flags ||| TVLV_HANDLER_OGM_CALLED) &&& ~~~TVLV_HANDLER_OGM_CALLED = flags := by decide
  obtain ⟨type, version, flags, ogmHandler⟩ := h
  obtain ⟨hplain, hmark⟩ := hclear flags hidle
  cases ogmHandler with
  | none => rfl
  | some f => cases b <;> simp [TvlvHandler.cleared, TvlvHandler.marked, hplain, hmark]

/-! ### The first loop -/

@[simp] lemma tvlvMarkWhere_false (handlerList : List (TvlvHandler σ)) :
    tvlvMarkWhere (fun _ => false) handlerList = handlerList := by
  simp [tvlvMarkWhere]

/-- Marks do not change which handler is found. -/
lemma tvlvHandlerGet_markWhere (p : TvlvHandler σ → Bool) (handlerList : List (TvlvHandler σ))
    (type version : U8) :
    tvlvHandlerGet (tvlvMarkWhere p handlerList) type version =
      (tvlvHandlerGet handlerList type version).map fun h =>
        if h.ogmHandler.isSome && p h then h.marked else h := by
  rw [tvlvHandlerGet, tvlvMarkWhere, List.find?_map]
  congr 1
  unfold tvlvHandlerGet
  congr 1
  funext h
  simp only [Function.comp_apply]
  split_ifs <;> rfl

/-- A handler that is found is registered for the type and version that were looked for. -/
lemma tvlvHandlerGet_eq_some {handlerList : List (TvlvHandler σ)} {type version : U8}
    {h : TvlvHandler σ} (hget : tvlvHandlerGet handlerList type version = some h) :
    h ∈ handlerList ∧ h.key = (type, version) :=
  ⟨List.mem_of_find?_eq_some hget, TvlvHandler.isFor_iff.1 (List.find?_some hget)⟩

/-- Each handler of a list with different types and versions is found. -/
lemma tvlvHandlerGet_of_mem {handlerList : List (TvlvHandler σ)}
    (hnd : (handlerList.map TvlvHandler.key).Nodup) {h : TvlvHandler σ} (hmem : h ∈ handlerList) :
    tvlvHandlerGet handlerList h.type h.version = some h := by
  cases hget : tvlvHandlerGet handlerList h.type h.version with
  | none =>
    have hnot := List.find?_eq_none.1 hget h hmem
    exact absurd (TvlvHandler.isFor_iff.2 rfl) hnot
  | some h' =>
    obtain ⟨hmem', hkey⟩ := tvlvHandlerGet_eq_some hget
    rw [List.inj_on_of_nodup_map hnd hmem' hmem hkey]

/-- Marking the first handler for a type and a version marks the only one. -/
lemma tvlvMarkCalled_markWhere {handlerList : List (TvlvHandler σ)}
    (hnd : (handlerList.map TvlvHandler.key).Nodup) (p : TvlvHandler σ → Bool)
    {type version : U8} {h : TvlvHandler σ}
    (hget : tvlvHandlerGet handlerList type version = some h) (hogm : h.ogmHandler.isSome) :
    tvlvMarkCalled type version (tvlvMarkWhere p handlerList) =
      tvlvMarkWhere (fun h => p h || h.isFor type version) handlerList := by
  induction handlerList with
  | nil => rfl
  | cons d ds ih =>
    rw [List.map_cons, List.nodup_cons] at hnd
    unfold tvlvMarkWhere at ih ⊢
    rw [List.map_cons, List.map_cons, tvlvMarkCalled]
    have hsame : (if d.ogmHandler.isSome && p d then d.marked else d).isFor type version =
        d.isFor type version := by split_ifs <;> rfl
    rw [hsame]
    by_cases hd : d.isFor type version = true
    · have hdh : d = h := by
        rw [tvlvHandlerGet, List.find?_cons_of_pos hd] at hget
        exact Option.some.inj hget
      subst hdh
      rw [if_pos hd]
      congr 1
      · simp only [hogm, hd, Bool.or_true, Bool.and_self, if_true, Bool.true_and]
        split_ifs
        · exact TvlvHandler.marked_marked d
        · rfl
      · refine List.map_congr_left fun e he => ?_
        have hne : e.isFor type version = false := by
          rw [Bool.eq_false_iff, ne_eq, TvlvHandler.isFor_iff]
          intro hkey
          rw [TvlvHandler.isFor_iff] at hd
          exact hnd.1 (hd.trans hkey.symm ▸ List.mem_map_of_mem he)
        simp only [hne, Bool.or_false]
    · rw [tvlvHandlerGet, List.find?_cons_of_neg hd] at hget
      rw [if_neg hd, ih hnd.2 hget]
      simp [hd]

/-- A call of an OGM handler: the handler, the flags and the value it is given. -/
structure TvlvInvocation (σ : Type*) where
  handler : TvlvHandler σ
  flags : U8
  value : List U8

/-- What the handler does. -/
def TvlvInvocation.run (ctx : σ) (i : TvlvInvocation σ) : σ :=
  match i.handler.ogmHandler with
  | none => ctx
  | some ogmHandler => ogmHandler ctx i.flags i.value

/-- What is recorded of the call. -/
def TvlvInvocation.call (i : TvlvInvocation σ) : TvlvCall :=
  ⟨i.handler.type, i.handler.version, i.flags⟩

/-- The call for a container, if there is a handler for it. -/
def tvlvInvocationFor (handlerList : List (TvlvHandler σ)) (c : TvlvContainer) :
    Option (TvlvInvocation σ) :=
  match tvlvHandlerGet handlerList c.type c.version with
  | none => none
  | some h => if h.ogmHandler.isSome then some ⟨h, NO_FLAGS, c.value⟩ else none

/-- Some of the containers are for the handler. -/
def tvlvAnyFor (cs : List TvlvContainer) (h : TvlvHandler σ) : Bool :=
  cs.any fun c => h.isFor c.type c.version

lemma tvlvInvocationFor_eq_some {handlerList : List (TvlvHandler σ)} {c : TvlvContainer}
    {i : TvlvInvocation σ} :
    tvlvInvocationFor handlerList c = some i ↔
      ∃ h, tvlvHandlerGet handlerList c.type c.version = some h ∧ h.ogmHandler.isSome ∧
        i = ⟨h, NO_FLAGS, c.value⟩ := by
  unfold tvlvInvocationFor
  cases hget : tvlvHandlerGet handlerList c.type c.version with
  | none => simp
  | some h =>
    by_cases hogm : h.ogmHandler.isSome
    · simp only [hogm, if_true, Option.some.injEq]
      constructor
      · rintro rfl
        exact ⟨h, rfl, hogm, rfl⟩
      · rintro ⟨h', rfl, -, rfl⟩
        rfl
    · simp only [hogm, Bool.false_eq_true, if_false]
      constructor
      · exact fun hnone => nomatch hnone
      · rintro ⟨h', hh, hogm', -⟩
        rw [Option.some.inj hh] at hogm
        exact absurd hogm' hogm

/-- Only the marks of handlers for OGMs matter. -/
lemma tvlvMarkWhere_congr {p q : TvlvHandler σ → Bool} {handlerList : List (TvlvHandler σ)}
    (h : ∀ d ∈ handlerList, d.ogmHandler.isSome → p d = q d) :
    tvlvMarkWhere p handlerList = tvlvMarkWhere q handlerList := by
  refine List.map_congr_left fun d hd => ?_
  cases hogm : d.ogmHandler.isSome with
  | false => simp
  | true => rw [h d hd hogm]

/-- One turn of the first loop, when the handlers of the containers before it are marked. -/
lemma tvlvCallHandler_markWhere {handlerList : List (TvlvHandler σ)}
    (hnd : (handlerList.map TvlvHandler.key).Nodup) (before : List TvlvContainer)
    (c : TvlvContainer) (ctx : σ) (called : List TvlvCall) :
    tvlvCallHandler ⟨ctx, tvlvMarkWhere (tvlvAnyFor before) handlerList, called⟩ c =
      ⟨(tvlvInvocationFor handlerList c).toList.foldl TvlvInvocation.run ctx,
        tvlvMarkWhere (tvlvAnyFor (before ++ [c])) handlerList,
        called ++ (tvlvInvocationFor handlerList c).toList.map TvlvInvocation.call⟩ := by
  have hany (h : TvlvHandler σ) : tvlvAnyFor (before ++ [c]) h =
      (tvlvAnyFor before h || h.isFor c.type c.version) := by simp [tvlvAnyFor]
  unfold tvlvCallHandler
  rw [tvlvHandlerGet_markWhere]
  cases hget : tvlvHandlerGet handlerList c.type c.version with
  | none =>
    have hmarks : tvlvMarkWhere (tvlvAnyFor (before ++ [c])) handlerList =
        tvlvMarkWhere (tvlvAnyFor before) handlerList := by
      refine tvlvMarkWhere_congr fun d hd _ => ?_
      have hnot : d.isFor c.type c.version = false := by
        simpa using List.find?_eq_none.1 hget d hd
      rw [hany, hnot, Bool.or_false]
    simp [tvlvInvocationFor, hget, hmarks]
  | some h =>
    obtain ⟨hmem, hkey⟩ := tvlvHandlerGet_eq_some hget
    simp only [Option.map_some]
    have hsame : (if h.ogmHandler.isSome && tvlvAnyFor before h then h.marked else h).ogmHandler =
        h.ogmHandler := by split_ifs <;> rfl
    rw [hsame]
    cases hogm : h.ogmHandler with
    | none =>
      have hmarks : tvlvMarkWhere (tvlvAnyFor (before ++ [c])) handlerList =
          tvlvMarkWhere (tvlvAnyFor before) handlerList := by
        refine tvlvMarkWhere_congr fun d hd hdogm => ?_
        have hnot : d.isFor c.type c.version = false := by
          rw [Bool.eq_false_iff, ne_eq, TvlvHandler.isFor_iff]
          intro hdkey
          rw [List.inj_on_of_nodup_map hnd hd hmem (hdkey.trans hkey.symm), hogm] at hdogm
          exact absurd hdogm (by simp)
        rw [hany, hnot, Bool.or_false]
      simp [tvlvInvocationFor, hget, hogm, hmarks]
    | some f =>
      have hinv : tvlvInvocationFor handlerList c = some ⟨h, NO_FLAGS, c.value⟩ :=
        tvlvInvocationFor_eq_some.2 ⟨h, hget, by simp [hogm], rfl⟩
      have hcall : (⟨(if (some f).isSome && tvlvAnyFor before h then h.marked else h).type,
          (if (some f).isSome && tvlvAnyFor before h then h.marked else h).version, NO_FLAGS⟩ :
            TvlvCall) = ⟨h.type, h.version, NO_FLAGS⟩ := by split_ifs <;> rfl
      have hmark := tvlvMarkCalled_markWhere hnd (tvlvAnyFor before) hget (by simp [hogm])
      simp only [hinv, hcall, hmark, Option.toList_some, List.foldl_cons, List.foldl_nil,
        List.map_cons, List.map_nil, TvlvInvocation.run, TvlvInvocation.call, hogm, ← hany]

/-- **The first loop** calls the handlers of the containers and marks them.

**Proof sketch.** Induction on the containers; those that come before are general. -/
lemma foldl_tvlvCallHandler {handlerList : List (TvlvHandler σ)}
    (hnd : (handlerList.map TvlvHandler.key).Nodup) (before cs : List TvlvContainer) (ctx : σ)
    (called : List TvlvCall) :
    cs.foldl tvlvCallHandler ⟨ctx, tvlvMarkWhere (tvlvAnyFor before) handlerList, called⟩ =
      ⟨(cs.filterMap (tvlvInvocationFor handlerList)).foldl TvlvInvocation.run ctx,
        tvlvMarkWhere (tvlvAnyFor (before ++ cs)) handlerList,
        called ++ (cs.filterMap (tvlvInvocationFor handlerList)).map TvlvInvocation.call⟩ := by
  induction cs generalizing before ctx called with
  | nil => simp
  | cons c cs ih =>
    rw [List.foldl_cons, tvlvCallHandler_markWhere hnd, ih, List.filterMap_cons]
    cases tvlvInvocationFor handlerList c with
    | none => simp
    | some i => simp

/-! ### The second loop -/

instance (h : TvlvHandler σ) : Decidable h.CalledIfNotFound := by
  unfold TvlvHandler.CalledIfNotFound
  infer_instance

/-- The call of a handler whose container was not found. -/
def TvlvHandler.notFound (h : TvlvHandler σ) : TvlvInvocation σ :=
  ⟨h, TVLV_HANDLER_OGM_CIFNOTFND, []⟩

/-- **The second loop** calls the handlers that are not marked and want to know, and clears the
marks. -/
lemma foldl_tvlvCallIfNotFound (hs : List (TvlvHandler σ)) (st : TvlvState σ) :
    hs.foldl tvlvCallIfNotFound st =
      ⟨((hs.filter (·.CalledIfNotFound)).map TvlvHandler.notFound).foldl TvlvInvocation.run st.ctx,
        st.handlerList ++ hs.map TvlvHandler.cleared,
        st.called ++ ((hs.filter (·.CalledIfNotFound)).map TvlvHandler.notFound).map
          TvlvInvocation.call⟩ := by
  induction hs generalizing st with
  | nil => simp
  | cons h hs ih =>
    rw [List.foldl_cons, ih]
    cases hogm : h.ogmHandler with
    | none =>
      have hnot : ¬ h.CalledIfNotFound := fun hc => by simpa [hogm] using hc.1
      simp [tvlvCallIfNotFound, TvlvHandler.cleared, hogm, hnot]
    | some f =>
      by_cases hflags : h.flags &&& TVLV_HANDLER_OGM_CIFNOTFND ≠ 0 ∧
          h.flags &&& TVLV_HANDLER_OGM_CALLED = 0
      · have hc : h.CalledIfNotFound := ⟨by simp [hogm], hflags⟩
        simp only [tvlvCallIfNotFound, hogm]
        rw [if_pos hflags]
        simp [TvlvHandler.cleared, TvlvHandler.notFound, TvlvInvocation.run, TvlvInvocation.call,
          hogm, hc]
      · have hnot : ¬ h.CalledIfNotFound := fun hc => hflags hc.2
        simp only [tvlvCallIfNotFound, hogm]
        rw [if_neg hflags]
        simp [TvlvHandler.cleared, hogm, hnot]

/-- **A processing leaves the handlers as they were**, whatever buffer it is given: the marks of
the first loop are cleared by the second. -/
theorem tvlvContainersProcess_handlerList {handlerList : List (TvlvHandler σ)}
    (hidle : TvlvHandlersIdle handlerList) (ctx : σ) (tvlvValue : List U8) :
    (tvlvContainersProcess ctx handlerList tvlvValue).handlerList = handlerList := by
  have hfirst := foldl_tvlvCallHandler hidle.nodup []
    (tvlvContainers tvlvValue.length tvlvValue) ctx []
  have hstart : tvlvMarkWhere (tvlvAnyFor []) handlerList = handlerList :=
    tvlvMarkWhere_false handlerList
  rw [hstart, List.nil_append] at hfirst
  unfold tvlvContainersProcess
  rw [tvlvContainersLoop_eq_foldl, hfirst, foldl_tvlvCallIfNotFound]
  simp only [List.nil_append, tvlvMarkWhere, List.map_map]
  conv_rhs => rw [← List.map_id handlerList]
  refine List.map_congr_left fun h hh => ?_
  exact TvlvHandler.cleared_ite (hidle.notCalled h hh) _

/-- Every event leaves the handler list idle. -/
lemma TvlvHandlersIdle.step {handlerList : List (TvlvHandler σ)}
    (hidle : TvlvHandlersIdle handlerList) (event : TvlvHandlerEvent σ) :
    TvlvHandlersIdle (tvlvHandlerStep handlerList event) := by
  cases event with
  | unregister type version =>
    exact ⟨hidle.nodup.sublist (List.eraseP_sublist.map _),
      fun h hh => hidle.notCalled h (List.mem_of_mem_eraseP hh)⟩
  | receive ctx tvlvValue =>
    rw [tvlvHandlerStep, tvlvContainersProcess_handlerList hidle]
    exact hidle
  | register optr type version flags allocated =>
    rw [tvlvHandlerStep, tvlvHandlerRegister]
    cases hget : tvlvHandlerGet handlerList type version with
    | some h => exact hidle
    | none =>
      cases allocated with
      | false => exact hidle
      | true =>
        have hnew : (type, version) ∉ handlerList.map TvlvHandler.key := by
          intro hmem
          obtain ⟨h, hh, hkey⟩ := List.mem_map.1 hmem
          exact List.find?_eq_none.1 hget h hh (TvlvHandler.isFor_iff.2 hkey)
        exact ⟨List.nodup_cons.2 ⟨hnew, hidle.nodup⟩,
          List.forall_mem_cons.2 ⟨flags.2, hidle.notCalled⟩⟩

/-- A handler list that was built by events is idle. -/
lemma tvlvHandlersIdle_final (events : List (TvlvHandlerEvent σ)) :
    TvlvHandlersIdle (Run.final tvlvHandlerStep [] events) :=
  Run.AllSteps.invariant (P := fun _ _ => True) TvlvHandlersIdle
    (fun _ event hidle _ => hidle.step event) (s := []) ⟨List.nodup_nil, by simp⟩
    (Run.AllSteps.of_forall (fun _ _ => trivial) events)

/-! ### Appending and processing -/

/-- What is due when the given content is registered at the sender: for each type and version
with content the handler, if there is one, with that content; without content the handler that
asked to be called without. -/
inductive TvlvInvocation.Due (handlerList : List (TvlvHandler σ))
    (registered : U8 × U8 → Option (List U8)) : TvlvInvocation σ → Prop where
  | found {h : TvlvHandler σ} {value : List U8} (hmem : h ∈ handlerList)
      (hogm : h.ogmHandler.isSome) (hreg : registered h.key = some value) :
      Due handlerList registered ⟨h, NO_FLAGS, value⟩
  | notFound {h : TvlvHandler σ} (hmem : h ∈ handlerList) (hogm : h.ogmHandler.isSome)
      (hflag : h.flags &&& TVLV_HANDLER_OGM_CIFNOTFND ≠ 0) (hreg : registered h.key = none) :
      Due handlerList registered ⟨h, TVLV_HANDLER_OGM_CIFNOTFND, []⟩

/-- A processing runs exactly what is due, each handler once, and afterwards no handler is marked
as called. -/
structure TvlvRunsDue (ctx : σ) (handlerList : List (TvlvHandler σ))
    (registered : U8 × U8 → Option (List U8)) (st : TvlvState σ) : Prop where
  due : ∃ due : List (TvlvInvocation σ), (∀ i, i ∈ due ↔ i.Due handlerList registered) ∧
    (due.map fun i => i.handler.key).Nodup ∧
    st.ctx = due.foldl TvlvInvocation.run ctx ∧ st.called = due.map TvlvInvocation.call
  handlerList : st.handlerList = handlerList
  notCalled : ∀ h ∈ st.handlerList, h.flags &&& TVLV_HANDLER_OGM_CALLED = 0

/-- The handlers that the second loop calls are those that were not called before and want to
know. -/
lemma filter_calledIfNotFound_markWhere {handlerList : List (TvlvHandler σ)}
    (hidle : TvlvHandlersIdle handlerList) (p : TvlvHandler σ → Bool) :
    (tvlvMarkWhere p handlerList).filter (·.CalledIfNotFound) =
      handlerList.filter fun h => h.CalledIfNotFound && !p h := by
  obtain ⟨-, hnot⟩ := hidle
  induction handlerList with
  | nil => rfl
  | cons h hs ih =>
    rw [List.forall_mem_cons] at hnot
    rw [tvlvMarkWhere, List.map_cons, ← tvlvMarkWhere, List.filter_cons, List.filter_cons,
      ih hnot.2]
    cases hogm : h.ogmHandler with
    | none =>
      have hno : ¬ h.CalledIfNotFound := fun hc => by simpa [hogm] using hc.1
      simp [hno]
    | some f =>
      have hmarked : ¬ h.marked.CalledIfNotFound := fun hc => h.flags_marked_and hc.2.2
      cases hp : p h with
      | false => simp
      | true => simp [hmarked]

/-- The keys of the handlers that are called for containers are among those of the containers. -/
lemma sublist_keys_filterMap (handlerList : List (TvlvHandler σ)) (cs : List TvlvContainer) :
    List.Sublist ((cs.filterMap (tvlvInvocationFor handlerList)).map fun i => i.handler.key)
      (cs.map TvlvContainer.key) := by
  induction cs with
  | nil => simp
  | cons c cs ih =>
    rw [List.filterMap_cons, List.map_cons]
    cases hinv : tvlvInvocationFor handlerList c with
    | none => exact ih.cons _
    | some i =>
      obtain ⟨h, hget, -, rfl⟩ := tvlvInvocationFor_eq_some.1 hinv
      have hkey : h.key = c.key := (tvlvHandlerGet_eq_some hget).2
      rw [List.map_cons, hkey]
      exact ih.cons_cons _

/-- A handler has a container exactly when there is content for its type and version. -/
lemma tvlvAnyFor_iff {cs : List TvlvContainer} (hnd : (cs.map TvlvContainer.key).Nodup)
    {registered : U8 × U8 → Option (List U8)}
    (hreg : ∀ k, (tvlvContainerGet cs k.1 k.2).map TvlvContainer.value = registered k)
    (h : TvlvHandler σ) : tvlvAnyFor cs h = false ↔ registered h.key = none := by
  rw [← hreg, Option.map_eq_none_iff, ← Bool.not_eq_true, tvlvAnyFor, List.any_eq_true]
  constructor
  · intro hnone
    rw [Option.eq_none_iff_forall_ne_some]
    intro c hc
    obtain ⟨hmem, hkey⟩ := (tvlvContainerGet_eq_some_iff hnd).1 hc
    exact hnone ⟨c, hmem, TvlvHandler.isFor_iff.2 hkey.symm⟩
  · rintro hnone ⟨c, hmem, hfor⟩
    have hsome : tvlvContainerGet cs h.key.1 h.key.2 = some c :=
      (tvlvContainerGet_eq_some_iff hnd).2 ⟨hmem, (TvlvHandler.isFor_iff.1 hfor).symm⟩
    rw [hnone] at hsome
    exact nomatch hsome

/-- **What runs for a buffer of containers** with different types and versions.

**Proof sketch.** The first loop calls a handler for each container that has one, and the second
loop calls the handlers left over that want to know.  The former have the keys of containers, the
latter have not. -/
theorem tvlvContainersProcess_runsDue {handlerList : List (TvlvHandler σ)}
    (hidle : TvlvHandlersIdle handlerList) {cs : List TvlvContainer}
    (hnd : (cs.map TvlvContainer.key).Nodup) {registered : U8 × U8 → Option (List U8)}
    (hreg : ∀ k, (tvlvContainerGet cs k.1 k.2).map TvlvContainer.value = registered k)
    (ctx : σ) {tvlvValue : List U8} (hcs : tvlvContainers tvlvValue.length tvlvValue = cs) :
    TvlvRunsDue ctx handlerList registered (tvlvContainersProcess ctx handlerList tvlvValue) := by
  have hsame := tvlvContainersProcess_handlerList hidle ctx tvlvValue
  refine ⟨?_, hsame, by rw [hsame]; exact hidle.notCalled⟩
  set found := cs.filterMap (tvlvInvocationFor handlerList) with hfound
  set left := (handlerList.filter fun h => h.CalledIfNotFound && !tvlvAnyFor cs h).map
    TvlvHandler.notFound with hleft
  have hrun : (tvlvContainersProcess ctx handlerList tvlvValue).ctx =
      (found ++ left).foldl TvlvInvocation.run ctx ∧
      (tvlvContainersProcess ctx handlerList tvlvValue).called =
        (found ++ left).map TvlvInvocation.call := by
    have hfirst := foldl_tvlvCallHandler hidle.nodup [] cs ctx []
    have hstart : tvlvMarkWhere (tvlvAnyFor []) handlerList = handlerList :=
      tvlvMarkWhere_false handlerList
    rw [hstart, List.nil_append, List.nil_append, ← hfound] at hfirst
    unfold tvlvContainersProcess
    rw [tvlvContainersLoop_eq_foldl, hcs, hfirst, foldl_tvlvCallIfNotFound,
      filter_calledIfNotFound_markWhere hidle, ← hleft]
    exact ⟨(List.foldl_append ..).symm, (List.map_append ..).symm⟩
  refine ⟨found ++ left, fun i => ?_, ?_, hrun⟩
  · rw [List.mem_append]
    constructor
    · rintro (hi | hi)
      · obtain ⟨c, hc, hinv⟩ := List.mem_filterMap.1 hi
        obtain ⟨h, hget, hogm, rfl⟩ := tvlvInvocationFor_eq_some.1 hinv
        obtain ⟨hmem, hkey⟩ := tvlvHandlerGet_eq_some hget
        refine .found hmem hogm ?_
        have hcont : tvlvContainerGet cs h.key.1 h.key.2 = some c :=
          (tvlvContainerGet_eq_some_iff hnd).2 ⟨hc, hkey.symm⟩
        rw [← hreg, hcont, Option.map_some]
      · obtain ⟨h, hh, rfl⟩ := List.mem_map.1 hi
        obtain ⟨hmem, hwants⟩ := List.mem_filter.1 hh
        rw [Bool.and_eq_true, decide_eq_true_iff, Bool.not_eq_true', tvlvAnyFor_iff hnd hreg]
          at hwants
        exact .notFound hmem hwants.1.1 hwants.1.2.1 hwants.2
    · rintro (⟨hmem, hogm, hvalue⟩ | ⟨hmem, hogm, hflag, hnone⟩)
      · refine Or.inl (List.mem_filterMap.2 ?_)
        rename_i h value
        rw [← hreg, Option.map_eq_some_iff] at hvalue
        obtain ⟨c, hc, rfl⟩ := hvalue
        obtain ⟨hcmem, hkey⟩ := (tvlvContainerGet_eq_some_iff hnd).1 hc
        refine ⟨c, hcmem, tvlvInvocationFor_eq_some.2 ⟨h, ?_, hogm, rfl⟩⟩
        have hckey : c.type = h.type ∧ c.version = h.version := Prod.mk.injEq .. ▸ hkey
        rw [hckey.1, hckey.2]
        exact tvlvHandlerGet_of_mem hidle.nodup hmem
      · rename_i h
        refine Or.inr (List.mem_map.2 ⟨h, List.mem_filter.2 ⟨hmem, ?_⟩, rfl⟩)
        rw [Bool.and_eq_true, decide_eq_true_iff, Bool.not_eq_true', tvlvAnyFor_iff hnd hreg]
        exact ⟨⟨hogm, hflag, hidle.notCalled h hmem⟩, hnone⟩
  · rw [List.map_append]
    refine List.nodup_append.2 ⟨hnd.sublist (sublist_keys_filterMap handlerList cs), ?_, ?_⟩
    · have hkeys : left.map (fun i => i.handler.key) =
          (handlerList.filter fun h => h.CalledIfNotFound && !tvlvAnyFor cs h).map
            TvlvHandler.key := by
        rw [hleft, List.map_map]
        rfl
      rw [hkeys]
      exact hidle.nodup.sublist (List.filter_sublist.map _)
    · rintro k hk k' hk' rfl
      obtain ⟨c, hc, hckey⟩ := List.mem_map.1
        ((sublist_keys_filterMap handlerList cs).subset hk)
      obtain ⟨i, hi, hikey⟩ := List.mem_map.1 hk'
      obtain ⟨h, hh, rfl⟩ := List.mem_map.1 hi
      have hno := (List.mem_filter.1 hh).2
      rw [Bool.and_eq_true, Bool.not_eq_true', tvlvAnyFor, List.any_eq_false] at hno
      exact hno.2 c hc (TvlvHandler.isFor_iff.2 (hikey.trans hckey.symm))

/-- The size of the containers of a list: a header of four bytes and the content of each. -/
def tvlvTotalSize (containerList : List TvlvContainer) : ℕ :=
  (containerList.map fun c => 4 + c.value.length).sum

lemma length_tvlvSerialize (containerList : List TvlvContainer) :
    (tvlvSerialize containerList).length = tvlvTotalSize containerList := by
  induction containerList with
  | nil => rfl
  | cons c cs ih =>
    rw [tvlvSerialize_cons, List.length_append, List.length_append, TvlvContainer.length_hdr, ih]
    rfl

/-- **Appending and processing are inverse to each other.**  Take any registered containers of at
most 65535 bytes, any handlers at the receiving node and any OGMs it has processed before.  The
packet buffer that `batadv_tvlv_container_ogm_append` returns, if there is memory for it, has as
many bytes behind the OGM's header as the number returned says.  Processing them runs exactly
what is due.  The walk over them, wherever they lie in memory, reads nothing else and leaves
nothing.  Without memory the packet buffer is kept as it was. -/
theorem tvlv_round_trip (calls : List TvlvContainerCall) (events : List (TvlvHandlerEvent σ))
    (fresh : Option (ℕ → U8)) (packetBuff : List U8) (packetMinLen : ℕ) (ctx : σ)
    (hmin : packetMinLen ≤ packetBuff.length)
    (hsize : tvlvTotalSize (Run.final tvlvContainerStep [] calls) ≤ 65535) :
    ∃ (newBuff : List U8) (tvlvLen : U16),
      tvlvContainerOgmAppend (Run.final tvlvContainerStep [] calls) fresh packetBuff
        packetMinLen = some (newBuff, tvlvLen) ∧
      (fresh = none → newBuff = packetBuff) ∧
      (fresh.isSome →
        newBuff.length = packetMinLen + tvlvLen.toNat ∧
        newBuff.take packetMinLen = packetBuff.take packetMinLen ∧
        TvlvRunsDue ctx (Run.final tvlvHandlerStep [] events)
          (Run.final tvlvRegisteredStep (fun _ => none) calls)
          (tvlvContainersProcess ctx (Run.final tvlvHandlerStep [] events)
            (newBuff.drop packetMinLen)) ∧
        ∀ (mem : ℕ → U8) (off : ℕ),
          memBytes mem off tvlvLen.toNat = newBuff.drop packetMinLen →
          (tvlvContainersWalk mem tvlvLen.toNat off tvlvLen).parsed.map
              (TvlvExtent.container mem) =
            tvlvContainers (newBuff.drop packetMinLen).length (newBuff.drop packetMinLen) ∧
          (tvlvContainersWalk mem tvlvLen.toNat off tvlvLen).rest = 0 ∧
          ∀ stretch ∈ (tvlvContainersWalk mem tvlvLen.toNat off tvlvLen).reads,
            off ≤ stretch.1 ∧ stretch.1 + stretch.2 ≤ off + tvlvLen.toNat) := by
  set containerList := Run.final tvlvContainerStep [] calls with hlist
  rw [← length_tvlvSerialize] at hsize
  cases fresh with
  | none =>
    exact ⟨packetBuff, _, tvlvContainerOgmAppend_of_no_memory containerList packetBuff
      packetMinLen, fun _ => rfl, fun h => absurd h (by simp)⟩
  | some fresh =>
    set total := (tvlvSerialize containerList).length with htotal
    have hlen : (BitVec.ofNat 16 total).toNat = total := by
      rw [BitVec.toNat_ofNat]
      omega
    have hstart : (packetBuff.take packetMinLen).length = packetMinLen := by
      rw [List.length_take]
      omega
    have hvalue : (packetBuff.take packetMinLen ++ tvlvSerialize containerList).drop packetMinLen =
        tvlvSerialize containerList := List.drop_left' hstart
    have hbound := length_value_lt hsize
    refine ⟨_, _, tvlvContainerOgmAppend_eq fresh hmin hsize, fun h => (nomatch h),
      fun _ => ?_⟩
    rw [hvalue, ← htotal, hlen]
    refine ⟨?_, List.take_left' hstart, ?_, fun mem off hmem => ⟨?_, ?_, ?_⟩⟩
    · rw [List.length_append, hstart, ← htotal]
    · exact tvlvContainersProcess_runsDue (tvlvHandlersIdle_final events)
        (nodup_final_tvlvContainerStep calls) (tvlvContainerGet_final calls) ctx
        (tvlvContainers_serialize hbound le_rfl)
    · rw [tvlvContainersWalk_parsed, hlen, hmem]
    · exact tvlvContainersWalk_serialize (by rw [hlen, hmem]) hbound (by rw [hlen])
    · intro stretch hstretch
      have hreads := tvlvContainersWalk_reads_mem mem total off (BitVec.ofNat 16 total) hstretch
      rwa [hlen] at hreads

/-- The calls of the example below: content is registered for two types, and replaced for one. -/
def tvlvExampleCalls : List TvlvContainerCall :=
  [.register 1 1 (some ⟨[5, 6, 7], by decide⟩) true, .register 2 1 none true,
    .register 1 1 (some ⟨[8], by decide⟩) true, .unregister 4 1]

/-- The handlers of the example: one for a registered type, and one for a missing one, which has
been called before.  They write down what they are called with. -/
def tvlvExampleEvents : List (TvlvHandlerEvent (List (U8 × List U8))) :=
  [.register (some fun log flags value => log ++ [(flags, value)]) 1 1 ⟨NO_FLAGS, by decide⟩ true,
    .register (some fun log flags value => log ++ [(flags, value)]) 3 1
      ⟨TVLV_HANDLER_OGM_CIFNOTFND, by decide⟩ true,
    .receive [] [3, 1, 0, 1, 9]]

/-- The round trip of two containers. -/
theorem tvlv_round_trip_twoContainers :
    tvlvTotalSize (Run.final tvlvContainerStep [] tvlvExampleCalls) = 9 ∧
      ∃ (newBuff : List U8) (tvlvLen : U16),
        tvlvContainerOgmAppend (Run.final tvlvContainerStep [] tvlvExampleCalls)
          (some fun _ => 0) [11, 12, 13] 2 = some (newBuff, tvlvLen) ∧
        TvlvRunsDue [] (Run.final tvlvHandlerStep [] tvlvExampleEvents)
          (Run.final tvlvRegisteredStep (fun _ => none) tvlvExampleCalls)
          (tvlvContainersProcess [] (Run.final tvlvHandlerStep [] tvlvExampleEvents)
            (newBuff.drop 2)) := by
  refine ⟨by decide, ?_⟩
  obtain ⟨newBuff, tvlvLen, happend, -, hmemory⟩ := tvlv_round_trip tvlvExampleCalls
    tvlvExampleEvents (some fun _ => 0) [11, 12, 13] 2 [] (by decide) (by decide)
  exact ⟨newBuff, tvlvLen, happend, (hmemory rfl).2.2.1⟩

end Batadv
