import BatmanAdv.Main

set_option relaxedAutoImplicit false
set_option autoImplicit false

/-!
# TVLV containers and their handlers (`tvlv.c`)

An OGM carries a buffer of containers, each a header of four bytes (type, version, length in
network byte order) and a value.  `batadv_tvlv_containers_process` walks over the buffer, calls
the handler registered for the container's type and version, and afterwards calls the handlers
that asked to be told about a missing container.

What the handlers act on is a parameter `σ`.  The processing records which handlers it ran.

## Main definitions

* `Batadv.TvlvHandler`, `Batadv.TvlvState` — a registered handler, and the state of a processing.
* `Batadv.tvlvContainersProcess` — `batadv_tvlv_containers_process` for an OGM.
* `Batadv.tvlvContainers` — the containers a buffer holds.
* `Batadv.TvlvCallsNone` — no handler is called for a buffer.

## Main results

* `Batadv.tvlvContainersLoop_eq_foldl` — the walk is a fold over the containers of the buffer.
* `Batadv.tvlvContainersProcess_called_eq_nil_iff` — exactly when no handler is run.
* `Batadv.tvlvContainersProcess_of_callsNone` — then nothing changes.
-/

namespace Batadv

variable {σ : Type*}

/-- `BATADV_TVLV_HANDLER_OGM_CIFNOTFND`: call the handler even if its type was not found. -/
def TVLV_HANDLER_OGM_CIFNOTFND : U8 := 2

/-- `BATADV_TVLV_HANDLER_OGM_CALLED`: the handler has been called for this OGM. -/
def TVLV_HANDLER_OGM_CALLED : U8 := 4

/-- `BATADV_NO_FLAGS`. -/
def NO_FLAGS : U8 := 0

/-- `struct batadv_tvlv_handler`, as far as OGMs are concerned.  The OGM handler is given the
state, flags and the value of the container. -/
structure TvlvHandler (σ : Type*) where
  type : U8
  version : U8
  flags : U8
  ogmHandler : Option (σ → U8 → List U8 → σ)

/-- One run of an OGM handler: the handler's type and version and the flags it was given. -/
structure TvlvCall where
  type : U8
  version : U8
  flags : U8
deriving DecidableEq, Repr

/-- The state of a processing: what the handlers act on, the handler list, and the handlers that
were run so far. -/
structure TvlvState (σ : Type*) where
  ctx : σ
  handlerList : List (TvlvHandler σ)
  called : List TvlvCall

/-- Whether a handler is responsible for the given type and version. -/
def TvlvHandler.isFor (type version : U8) (h : TvlvHandler σ) : Bool :=
  h.type == type && h.version == version

/-- `batadv_tvlv_handler_get`. -/
def tvlvHandlerGet (handlerList : List (TvlvHandler σ)) (type version : U8) :
    Option (TvlvHandler σ) :=
  handlerList.find? (TvlvHandler.isFor type version)

/-- Set the flag of the handler that was called, the first one for its type and version. -/
def tvlvMarkCalled (type version : U8) : List (TvlvHandler σ) → List (TvlvHandler σ)
  | [] => []
  | h :: hs =>
    if h.isFor type version then { h with flags := h.flags ||| TVLV_HANDLER_OGM_CALLED } :: hs
    else h :: tvlvMarkCalled type version hs

/-- A container of a TVLV buffer. -/
structure TvlvContainer where
  type : U8
  version : U8
  value : List U8
deriving DecidableEq, Repr

/-- `batadv_tvlv_call_handler` for an OGM: look up the handler of a container and run it. -/
def tvlvCallHandler (st : TvlvState σ) (c : TvlvContainer) : TvlvState σ :=
  match tvlvHandlerGet st.handlerList c.type c.version with
  | none => st
  | some h =>
    match h.ogmHandler with
    | none => st
    | some ogmHandler =>
      { ctx := ogmHandler st.ctx NO_FLAGS c.value
        handlerList := tvlvMarkCalled c.type c.version st.handlerList
        called := st.called ++ [⟨h.type, h.version, NO_FLAGS⟩] }

/-- The first loop of `batadv_tvlv_containers_process`.  It stops where fewer bytes are left than
a header has, and at a container that is longer than what is left. -/
def tvlvContainersLoop : ℕ → List U8 → TvlvState σ → TvlvState σ
  | 0, _, st => st
  | fuel + 1, tvlvValue, st =>
    match tvlvValue with
    | type :: version :: lenHi :: lenLo :: rest =>
      let contLen := (lenHi ++ lenLo).toNat
      if rest.length < contLen then st
      else tvlvContainersLoop fuel (rest.drop contLen)
        (tvlvCallHandler st ⟨type, version, rest.take contLen⟩)
    | _ => st

/-- One turn of the second loop: call a handler that wants to know that its container was not
found. -/
def tvlvCallIfNotFound (st : TvlvState σ) (h : TvlvHandler σ) : TvlvState σ :=
  match h.ogmHandler with
  | none => { st with handlerList := st.handlerList ++ [h] }
  | some ogmHandler =>
    let h' := { h with flags := h.flags &&& ~~~TVLV_HANDLER_OGM_CALLED }
    if h.flags &&& TVLV_HANDLER_OGM_CIFNOTFND ≠ 0 ∧ h.flags &&& TVLV_HANDLER_OGM_CALLED = 0 then
      { ctx := ogmHandler st.ctx TVLV_HANDLER_OGM_CIFNOTFND []
        handlerList := st.handlerList ++ [h']
        called := st.called ++ [⟨h.type, h.version, TVLV_HANDLER_OGM_CIFNOTFND⟩] }
    else { st with handlerList := st.handlerList ++ [h'] }

/-- `batadv_tvlv_containers_process` for an OGM.  The buffer's length bounds the number of turns
of the first loop, each of which consumes at least a header. -/
def tvlvContainersProcess (ctx : σ) (handlerList : List (TvlvHandler σ)) (tvlvValue : List U8) :
    TvlvState σ :=
  let st := tvlvContainersLoop tvlvValue.length tvlvValue ⟨ctx, handlerList, []⟩
  st.handlerList.foldl tvlvCallIfNotFound { st with handlerList := [] }

/-! ### The walk as a fold -/

/-- The containers of a buffer, in order. -/
def tvlvContainers : ℕ → List U8 → List TvlvContainer
  | 0, _ => []
  | fuel + 1, tvlvValue =>
    match tvlvValue with
    | type :: version :: lenHi :: lenLo :: rest =>
      let contLen := (lenHi ++ lenLo).toNat
      if rest.length < contLen then []
      else ⟨type, version, rest.take contLen⟩ :: tvlvContainers fuel (rest.drop contLen)
    | _ => []

/-- **The walk is a fold** over the containers of the buffer.

**Proof sketch.** Both recursions take the same turns; the induction is on the fuel. -/
theorem tvlvContainersLoop_eq_foldl (fuel : ℕ) (tvlvValue : List U8) (st : TvlvState σ) :
    tvlvContainersLoop fuel tvlvValue st =
      (tvlvContainers fuel tvlvValue).foldl tvlvCallHandler st := by
  induction fuel generalizing tvlvValue st with
  | zero => rfl
  | succ fuel ih =>
    match tvlvValue with
    | [] | [_] | [_, _] | [_, _, _] => rfl
    | type :: version :: lenHi :: lenLo :: rest =>
      simp only [tvlvContainersLoop, tvlvContainers]
      split_ifs with h
      · rfl
      · rw [ih, List.foldl_cons]

/-! ### Which handlers are run -/

/-- The handler list has an OGM handler for the container. -/
def TvlvContainer.Handled (handlerList : List (TvlvHandler σ)) (c : TvlvContainer) : Prop :=
  ∃ h, tvlvHandlerGet handlerList c.type c.version = some h ∧ h.ogmHandler.isSome

/-- The handler is to be called when its container is not found. -/
def TvlvHandler.CalledIfNotFound (h : TvlvHandler σ) : Prop :=
  h.ogmHandler.isSome ∧ h.flags &&& TVLV_HANDLER_OGM_CIFNOTFND ≠ 0 ∧
    h.flags &&& TVLV_HANDLER_OGM_CALLED = 0

/-- No OGM handler is called for a buffer: none is registered for any of its containers, and none
wants to be called without one. -/
def TvlvCallsNone (handlerList : List (TvlvHandler σ)) (tvlvValue : List U8) : Prop :=
  (∀ c ∈ tvlvContainers tvlvValue.length tvlvValue, ¬ c.Handled handlerList) ∧
    ∀ h ∈ handlerList, ¬ h.CalledIfNotFound

/-- A container that no OGM handler is registered for changes nothing. -/
lemma tvlvCallHandler_of_not_handled {st : TvlvState σ} {c : TvlvContainer}
    (h : ¬ c.Handled st.handlerList) : tvlvCallHandler st c = st := by
  unfold tvlvCallHandler
  cases hget : tvlvHandlerGet st.handlerList c.type c.version with
  | none => rfl
  | some hd =>
    cases hogm : hd.ogmHandler with
    | none => simp only [hogm]
    | some f => exact absurd ⟨hd, hget, by simp [hogm]⟩ h

/-- A container with a handler is recorded. -/
lemma tvlvCallHandler_called_of_handled {st : TvlvState σ} {c : TvlvContainer}
    (h : c.Handled st.handlerList) : (tvlvCallHandler st c).called ≠ [] := by
  obtain ⟨hd, hget, hogm⟩ := h
  obtain ⟨f, hf⟩ := Option.isSome_iff_exists.1 hogm
  simp [tvlvCallHandler, hget, hf]

/-- What has been run stays recorded. -/
lemma called_prefix_tvlvCallHandler (st : TvlvState σ) (c : TvlvContainer) :
    st.called <+: (tvlvCallHandler st c).called := by
  unfold tvlvCallHandler
  split
  · exact List.prefix_rfl
  · split
    · exact List.prefix_rfl
    · exact List.prefix_append _ _

/-- What has been run stays recorded. -/
lemma called_prefix_tvlvCallIfNotFound (st : TvlvState σ) (h : TvlvHandler σ) :
    st.called <+: (tvlvCallIfNotFound st h).called := by
  unfold tvlvCallIfNotFound
  split
  · exact List.prefix_rfl
  · dsimp only
    split_ifs
    · exact List.prefix_append _ _
    · exact List.prefix_rfl

/-- A fold of steps that keep what was recorded keeps it. -/
lemma called_prefix_foldl {α : Type*} {f : TvlvState σ → α → TvlvState σ}
    (hf : ∀ st a, st.called <+: (f st a).called) (st : TvlvState σ) (l : List α) :
    st.called <+: (l.foldl f st).called := by
  induction l generalizing st with
  | nil => exact List.prefix_rfl
  | cons a l ih => exact (hf st a).trans (ih (f st a))

/-- The first loop ran no handler exactly when none of the containers has one; then it changed
nothing at all.

**Proof sketch.** Induction on the containers.  One without a handler leaves the state, and the
handler list with it, as it was; one with a handler is recorded, and stays recorded. -/
lemma foldl_tvlvCallHandler_called_eq_nil_iff (st : TvlvState σ) (h0 : st.called = [])
    (cs : List TvlvContainer) :
    ((cs.foldl tvlvCallHandler st).called = [] ↔ ∀ c ∈ cs, ¬ c.Handled st.handlerList) ∧
      ((cs.foldl tvlvCallHandler st).called = [] → cs.foldl tvlvCallHandler st = st) := by
  induction cs with
  | nil => simp [h0]
  | cons c cs ih =>
    rw [List.foldl_cons, List.forall_mem_cons]
    by_cases hc : c.Handled st.handlerList
    · have hne : (cs.foldl tvlvCallHandler (tvlvCallHandler st c)).called ≠ [] := by
        intro hnil
        have hpre := called_prefix_foldl called_prefix_tvlvCallHandler (tvlvCallHandler st c) cs
        rw [hnil, List.prefix_nil] at hpre
        exact tvlvCallHandler_called_of_handled hc hpre
      simp [hne, hc]
    · rw [tvlvCallHandler_of_not_handled hc]
      simpa [hc] using ih

/-- The second loop ran no handler exactly when none asked for it; then it left what the handlers
act on alone. -/
lemma foldl_tvlvCallIfNotFound_called_eq_nil_iff {st : TvlvState σ} (h0 : st.called = [])
    (hs : List (TvlvHandler σ)) :
    ((hs.foldl tvlvCallIfNotFound st).called = [] ↔ ∀ h ∈ hs, ¬ h.CalledIfNotFound) ∧
      ((hs.foldl tvlvCallIfNotFound st).called = [] →
        (hs.foldl tvlvCallIfNotFound st).ctx = st.ctx) := by
  induction hs generalizing st with
  | nil => simp [h0]
  | cons h hs ih =>
    rw [List.foldl_cons, List.forall_mem_cons]
    by_cases hh : h.CalledIfNotFound
    · obtain ⟨f, hf⟩ := Option.isSome_iff_exists.1 hh.1
      have hcall : (tvlvCallIfNotFound st h).called ≠ [] := by
        simp only [tvlvCallIfNotFound, hf]
        rw [if_pos hh.2]
        simp
      have hne : (hs.foldl tvlvCallIfNotFound (tvlvCallIfNotFound st h)).called ≠ [] := by
        intro hnil
        have hpre := called_prefix_foldl called_prefix_tvlvCallIfNotFound
          (tvlvCallIfNotFound st h) hs
        rw [hnil, List.prefix_nil] at hpre
        exact hcall hpre
      simp [hne, hh]
    · have hcall : (tvlvCallIfNotFound st h).called = st.called ∧
          (tvlvCallIfNotFound st h).ctx = st.ctx := by
        unfold tvlvCallIfNotFound
        cases hf : h.ogmHandler with
        | none => simp
        | some f =>
          have hflags : ¬ (h.flags &&& TVLV_HANDLER_OGM_CIFNOTFND ≠ 0 ∧
              h.flags &&& TVLV_HANDLER_OGM_CALLED = 0) := fun hc => hh ⟨by simp [hf], hc⟩
          simp only [if_neg hflags, and_self]
      obtain ⟨hiff, hctx⟩ := ih (hcall.1.trans h0)
      simp only [hh, not_false_eq_true, true_and]
      exact ⟨hiff, fun hnil => (hctx hnil).trans hcall.2⟩

/-- **Exactly when no handler is run**: none is registered for any container of the buffer, and
none wants to be called without one. -/
theorem tvlvContainersProcess_called_eq_nil_iff (ctx : σ) (handlerList : List (TvlvHandler σ))
    (tvlvValue : List U8) :
    (tvlvContainersProcess ctx handlerList tvlvValue).called = [] ↔
      TvlvCallsNone handlerList tvlvValue := by
  unfold tvlvContainersProcess TvlvCallsNone
  rw [tvlvContainersLoop_eq_foldl]
  set cs := tvlvContainers tvlvValue.length tvlvValue
  obtain ⟨hiff, hsame⟩ := foldl_tvlvCallHandler_called_eq_nil_iff
    ⟨ctx, handlerList, []⟩ rfl cs
  rw [← hiff]
  constructor
  · intro h
    have hfirst : (cs.foldl tvlvCallHandler ⟨ctx, handlerList, []⟩).called = [] := by
      have hpre := called_prefix_foldl called_prefix_tvlvCallIfNotFound
        { cs.foldl tvlvCallHandler ⟨ctx, handlerList, []⟩ with handlerList := [] }
        (cs.foldl tvlvCallHandler ⟨ctx, handlerList, []⟩).handlerList
      rwa [h, List.prefix_nil] at hpre
    rw [hsame hfirst] at h
    exact ⟨hfirst, (foldl_tvlvCallIfNotFound_called_eq_nil_iff rfl handlerList).1.1 h⟩
  · rintro ⟨hfirst, hnone⟩
    rw [hsame hfirst]
    exact (foldl_tvlvCallIfNotFound_called_eq_nil_iff rfl handlerList).1.2 hnone

/-- **When no handler is run nothing changes.** -/
theorem tvlvContainersProcess_of_callsNone (ctx : σ) {handlerList : List (TvlvHandler σ)}
    {tvlvValue : List U8} (h : TvlvCallsNone handlerList tvlvValue) :
    (tvlvContainersProcess ctx handlerList tvlvValue).ctx = ctx := by
  have hfirst := (foldl_tvlvCallHandler_called_eq_nil_iff ⟨ctx, handlerList, []⟩ rfl
    (tvlvContainers tvlvValue.length tvlvValue)).1.2 h.1
  have hsame := (foldl_tvlvCallHandler_called_eq_nil_iff ⟨ctx, handlerList, []⟩ rfl
    (tvlvContainers tvlvValue.length tvlvValue)).2 hfirst
  unfold tvlvContainersProcess
  rw [tvlvContainersLoop_eq_foldl, hsame]
  exact (foldl_tvlvCallIfNotFound_called_eq_nil_iff rfl handlerList).2
    ((foldl_tvlvCallIfNotFound_called_eq_nil_iff rfl handlerList).1.2 h.2)

end Batadv
