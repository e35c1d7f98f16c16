import Mathlib.Algebra.BigOperators.Group.List.Basic
import Mathlib.Algebra.GroupWithZero.Nat
import Mathlib.Algebra.Ring.Int.Defs
import Mathlib.Data.List.Basic
import Mathlib.Data.List.Range

set_option relaxedAutoImplicit false
set_option autoImplicit false

/-!
# Lists that are sent in pages

A list of items is written into pages of limited room, one page for each call.  A call that runs out
of room leaves a position, from which the next call goes on.  An item can be written by such a
procedure itself, and then the position in a list is an index and the position in the item.
Whether the pages have all entries once and in order is a question of what is still to come at a
position: a call writes a first part of that, and leaves a position at which the rest is still to
come.

## Main definitions

* `Paging.Page` — a page with its room and its entries.
* `Paging.loop`, `Paging.list`, `Paging.leaves` — write a list of items into a page, and stop at one
  that does not fit.
* `Paging.Resumes`, `Paging.Continues` — what a procedure for an item, and one for everything, has
  to do.
* `Paging.position`, `Paging.message` — the positions and the pages of repeated calls.

## Main results

* `Paging.Resumes.list`, `Paging.Resumes.leaves` — lists of items.
* `Paging.Continues.of_resumes` — a list of items that is everything.
* `Paging.Continues.complete` — **the pages have all entries**, once and in order.
-/

namespace Paging

variable {ε σ α : Type*}

/-- A page. -/
structure Page (ε : Type*) where
  capacity : ℕ
  entries : List ε

namespace Page

/-- An entry fits into what is left of a page. -/
def Fits (size : ε → ℕ) (page : Page ε) (e : ε) : Prop :=
  (page.entries.map size).sum + size e ≤ page.capacity

/-- A page with more entries. -/
def append (page : Page ε) (es : List ε) : Page ε := { page with entries := page.entries ++ es }

@[simp] lemma append_nil (page : Page ε) : page.append [] = page := by
  unfold append
  rw [List.append_nil]

@[simp] lemma append_append (page : Page ε) (es fs : List ε) :
    (page.append es).append fs = page.append (es ++ fs) := by
  unfold append
  rw [List.append_assoc]

end Page

/-- Write an item into a page, from a position in the item.  It gives the page, the position, and a
code that is zero if the item is complete. -/
abbrev Dump (ε σ α : Type*) := Page ε → σ → α → Page ε × σ × ℤ

/-- **Write a list of items**: the first ones are skipped, and the loop stops at the first item that
is not complete and gives its index. -/
def loop (dump : Dump ε σ α) (skip : ℕ) : ℕ → Page ε → σ → List α → Page ε × σ × Option ℕ
  | _, page, s, [] => (page, s, none)
  | idx, page, s, x :: xs =>
    if idx < skip then loop dump skip (idx + 1) page s xs
    else if (dump page s x).2.2 = 0 then
      loop dump skip (idx + 1) (dump page s x).1 (dump page s x).2.1 xs
    else ((dump page s x).1, (dump page s x).2.1, some idx)

/-- A list of items as an item: its position has an index, and the position in the item there. -/
def list (dump : Dump ε σ α) (start : σ) (code : ℤ) : Dump ε (ℕ × σ) (List α) :=
  fun page pos xs =>
    match loop dump pos.1 0 page pos.2 xs with
    | (page, s, some idx) => (page, (idx, s), code)
    | (page, _, none) => (page, (0, start), 0)

/-- A list of items that have no positions. -/
def leaves (put : Page ε → α → Page ε × ℤ) (code : ℤ) : Dump ε ℕ (List α) :=
  fun page idx xs =>
    let r := list (fun page _ x => ((put page x).1, (), (put page x).2)) () code page (idx, ()) xs
    (r.1, r.2.1.1, r.2.2)

/-- **A procedure for an item**, where `rest` is what is still to come at a position: it writes that
and goes to the start, or stops before an entry that does not fit. -/
structure Resumes (size : ε → ℕ) (dump : Dump ε σ α) (rest : σ → α → List ε) (start : σ) :
    Prop where
  complete : ∀ page s x, (dump page s x).2.2 = 0 →
    (dump page s x).1 = page.append (rest s x) ∧ (dump page s x).2.1 = start
  abort : ∀ page s x, (dump page s x).2.2 ≠ 0 → ∃ out e es, rest s x = out ++ e :: es ∧
    (dump page s x).1 = page.append out ∧ rest (dump page s x).2.1 x = e :: es ∧
    ¬ (page.append out).Fits size e

/-- What is still to come of a list, at a position in its first item. -/
def pending (rest : σ → α → List ε) (start : σ) (s : σ) : List α → List ε
  | [] => []
  | x :: xs => rest s x ++ xs.flatMap (rest start)

/-- What is still to come of a list, at a position. -/
def listRest (rest : σ → α → List ε) (start : σ) (pos : ℕ × σ) (xs : List α) : List ε :=
  pending rest start pos.2 (xs.drop pos.1)

variable {size : ε → ℕ} {dump : Dump ε σ α} {rest : σ → α → List ε} {start : σ} {page : Page ε}

@[simp] lemma pending_start (xs : List α) :
    pending rest start start xs = xs.flatMap (rest start) := by
  cases xs <;> rfl

/-! ### The loop -/

/-- Items that are skipped. -/
lemma loop_of_le {skip idx : ℕ} (hidx : idx ≤ skip) (s : σ) (xs : List α) :
    loop dump skip idx page s xs = loop dump skip skip page s (xs.drop (skip - idx)) := by
  induction xs generalizing idx with
  | nil =>
    rw [List.drop_nil]
    rfl
  | cons x xs ih =>
    rcases hidx.eq_or_lt with rfl | hlt
    · rw [Nat.sub_self, List.drop_zero]
    · rw [loop, if_pos hlt, ih hlt]
      obtain ⟨k, rfl⟩ : ∃ k, skip = idx + 1 + k := ⟨skip - (idx + 1), by omega⟩
      rw [show idx + 1 + k - (idx + 1) = k by omega, show idx + 1 + k - idx = k + 1 by omega,
        List.drop_succ_cons]

/-- Behind the items that are skipped, it does not matter how many these were. -/
lemma loop_skip_eq {skip skip' idx : ℕ} (h : skip ≤ idx) (h' : skip' ≤ idx) (s : σ)
    (xs : List α) : loop dump skip idx page s xs = loop dump skip' idx page s xs := by
  induction xs generalizing idx page s with
  | nil => rfl
  | cons x xs ih =>
    rw [loop, loop, if_neg (Nat.not_lt.2 h), if_neg (Nat.not_lt.2 h'),
      ih (Nat.le_succ_of_le h) (Nat.le_succ_of_le h')]

/-- A loop that starts behind the items that are skipped. -/
lemma loop_start (skip : ℕ) (s : σ) (xs : List α) :
    loop dump 0 skip page s (xs.drop skip) = loop dump skip 0 page s xs := by
  rw [loop_of_le (Nat.zero_le skip), Nat.sub_zero, loop_skip_eq (Nat.zero_le skip) le_rfl]

/-- **The loop is complete.** -/
lemma Resumes.loop_complete (h : Resumes size dump rest start) {skip idx : ℕ} (hidx : skip ≤ idx)
    {s : σ} {xs : List α} (hnone : (loop dump skip idx page s xs).2.2 = none) :
    (loop dump skip idx page s xs).1 = page.append (pending rest start s xs) := by
  induction xs generalizing idx page s with
  | nil => rw [pending, Page.append_nil]; rfl
  | cons x xs ih =>
    rw [loop, if_neg (Nat.not_lt.2 hidx)] at hnone ⊢
    by_cases hcode : (dump page s x).2.2 = 0
    · obtain ⟨hpage, hstart⟩ := h.complete page s x hcode
      rw [if_pos hcode, hstart] at hnone ⊢
      rw [ih (Nat.le_succ_of_le hidx) hnone, hpage, Page.append_append, pending_start, pending]
    · rw [if_neg hcode] at hnone
      exact absurd hnone (by simp)

/-- **The loop stops** at an index.

**Proof sketch.** Induction on the items.  What is still to come before the item at which it stops
was written, and of that item, what its procedure left. -/
lemma Resumes.loop_abort (h : Resumes size dump rest start) {skip idx i : ℕ} (hidx : skip ≤ idx)
    {s : σ} {xs : List α} (hsome : (loop dump skip idx page s xs).2.2 = some i) :
    idx ≤ i ∧ ∃ out e es, pending rest start s xs = out ++ e :: es ∧
      (loop dump skip idx page s xs).1 = page.append out ∧
      pending rest start (loop dump skip idx page s xs).2.1 (xs.drop (i - idx)) = e :: es ∧
      ¬ (page.append out).Fits size e := by
  induction xs generalizing idx page s with
  | nil => exact absurd hsome (by simp [loop])
  | cons x xs ih =>
    rw [loop, if_neg (Nat.not_lt.2 hidx)] at hsome ⊢
    by_cases hcode : (dump page s x).2.2 = 0
    · obtain ⟨hpage, hstart⟩ := h.complete page s x hcode
      rw [if_pos hcode, hstart] at hsome ⊢
      obtain ⟨hle, out, e, es, hpending, hpage', hrest, hfits⟩ :=
        ih (Nat.le_succ_of_le hidx) hsome
      rw [pending_start] at hpending
      rw [hpage, Page.append_append] at hpage' hfits
      refine ⟨by omega, rest s x ++ out, e, es, ?_, hpage ▸ hpage', ?_, hfits⟩
      · rw [pending, hpending, List.append_assoc]
      · obtain ⟨k, rfl⟩ : ∃ k, i = idx + 1 + k := ⟨i - (idx + 1), by omega⟩
        rw [show idx + 1 + k - (idx + 1) = k by omega] at hrest
        rw [show idx + 1 + k - idx = k + 1 by omega, List.drop_succ_cons]
        exact hrest
    · rw [if_neg hcode] at hsome ⊢
      obtain rfl := Option.some.inj hsome
      obtain ⟨out, e, es, hrest, hpage, hleft, hfits⟩ := h.abort page s x hcode
      refine ⟨le_rfl, out, e, es ++ xs.flatMap (rest start), ?_, hpage, ?_, hfits⟩
      · rw [pending, hrest, List.append_assoc, List.cons_append]
      · rw [Nat.sub_self, List.drop_zero, pending, hleft, List.cons_append]

/-! ### Lists as items -/

lemma list_of_some {code : ℤ} {pos : ℕ × σ} {xs : List α} {i : ℕ}
    (hr : (loop dump pos.1 0 page pos.2 xs).2.2 = some i) :
    Paging.list dump start code page pos xs = ((loop dump pos.1 0 page pos.2 xs).1,
      (i, (loop dump pos.1 0 page pos.2 xs).2.1), code) := by
  obtain ⟨r, hloop⟩ : ∃ r, loop dump pos.1 0 page pos.2 xs = r := ⟨_, rfl⟩
  obtain ⟨page', s', stop⟩ := r
  rw [hloop] at hr
  obtain rfl : stop = some i := hr
  simp only [Paging.list, hloop]

lemma list_of_none {code : ℤ} {pos : ℕ × σ} {xs : List α}
    (hr : (loop dump pos.1 0 page pos.2 xs).2.2 = none) :
    Paging.list dump start code page pos xs =
      ((loop dump pos.1 0 page pos.2 xs).1, (0, start), 0) := by
  obtain ⟨r, hloop⟩ : ∃ r, loop dump pos.1 0 page pos.2 xs = r := ⟨_, rfl⟩
  obtain ⟨page', s', stop⟩ := r
  rw [hloop] at hr
  obtain rfl : stop = none := hr
  simp only [Paging.list, hloop]

/-- **A list of items is an item.** -/
theorem Resumes.list (h : Resumes size dump rest start) {code : ℤ} (hcode : code ≠ 0) :
    Resumes size (list dump start code) (listRest rest start) (0, start) := by
  constructor
  · intro page pos xs hzero
    cases hr : (loop dump pos.1 0 page pos.2 xs).2.2 with
    | some i =>
      rw [list_of_some hr] at hzero
      exact absurd hzero hcode
    | none =>
      rw [list_of_none hr]
      rw [loop_of_le (Nat.zero_le _), Nat.sub_zero] at hr ⊢
      exact ⟨h.loop_complete le_rfl hr, rfl⟩
  · intro page pos xs hzero
    cases hr : (loop dump pos.1 0 page pos.2 xs).2.2 with
    | none =>
      rw [list_of_none hr] at hzero
      exact absurd rfl hzero
    | some i =>
      rw [list_of_some hr]
      rw [loop_of_le (Nat.zero_le _), Nat.sub_zero] at hr ⊢
      obtain ⟨hle, out, e, es, hpending, hpage, hrest, hfits⟩ := h.loop_abort le_rfl hr
      refine ⟨out, e, es, hpending, hpage, ?_, hfits⟩
      rw [List.drop_drop, Nat.add_sub_cancel' hle] at hrest
      exact hrest

/-- **A list of items that have no positions**, where an item has at most one entry. -/
theorem Resumes.leaves {put : Page ε → α → Page ε × ℤ} {content : α → List ε}
    (hput : ∀ page x, ((put page x).2 = 0 → (put page x).1 = page.append (content x)) ∧
      ((put page x).2 ≠ 0 → (put page x).1 = page ∧
        ∃ e es, content x = e :: es ∧ ¬ page.Fits size e))
    {code : ℤ} (hcode : code ≠ 0) :
    Resumes size (leaves put code) (fun idx xs => (xs.drop idx).flatMap content) 0 := by
  have hleaf : Resumes size (fun page (_ : Unit) x => ((put page x).1, (), (put page x).2))
      (fun _ x => content x) () := by
    constructor
    · exact fun page s x hzero => ⟨(hput page x).1 hzero, rfl⟩
    · intro page s x hzero
      obtain ⟨hpage, e, es, hcontent, hfits⟩ := (hput page x).2 hzero
      exact ⟨[], e, es, hcontent, hpage.trans page.append_nil.symm, hcontent,
        page.append_nil.symm ▸ hfits⟩
  have hlist := hleaf.list hcode
  have hrest : ∀ idx (xs : List α), listRest (fun (_ : Unit) x => content x) () (idx, ()) xs =
      (xs.drop idx).flatMap content := fun idx xs => pending_start _
  constructor
  · intro page idx xs hzero
    obtain ⟨hpage, hstart⟩ := hlist.complete page (idx, ()) xs hzero
    exact ⟨hpage.trans (by rw [hrest]), congrArg Prod.fst hstart⟩
  · intro page idx xs hzero
    obtain ⟨out, e, es, hpending, hpage, hleft, hfits⟩ := hlist.abort page (idx, ()) xs hzero
    rw [hrest] at hpending
    refine ⟨out, e, es, hpending, hpage, ?_, hfits⟩
    rw [← hleft]
    exact (hrest _ xs).symm

/-! ### Repeated calls -/

/-- **A procedure for everything**, where `rest` is what is still to come at a position: it writes
nothing if that is nothing, and otherwise a first part of it, up to an entry that does not fit. -/
structure Continues (size : ε → ℕ) (dump : Page ε → σ → Page ε × σ) (rest : σ → List ε) :
    Prop where
  done : ∀ page s, rest s = [] → (dump page s).1 = page
  step : ∀ page s, rest s ≠ [] → ∃ out, rest s = out ++ rest (dump page s).2 ∧
    (dump page s).1 = page.append out ∧
    ∀ e es, rest (dump page s).2 = e :: es → ¬ (page.append out).Fits size e

/-- The position before each call, where the pages have the given room. -/
def position (dump : Page ε → σ → Page ε × σ) (caps : ℕ → ℕ) (s : σ) : ℕ → σ
  | 0 => s
  | k + 1 => (dump ⟨caps k, []⟩ (position dump caps s k)).2

/-- The page of each call. -/
def message (dump : Page ε → σ → Page ε × σ) (caps : ℕ → ℕ) (s : σ) (k : ℕ) : List ε :=
  (dump ⟨caps k, []⟩ (position dump caps s k)).1.entries

/-- **A list of items that is everything**, at a position with an index that is within the list or
behind its end. -/
theorem Continues.of_resumes (h : Resumes size dump rest start) (xs : List α) {σ' : Type*}
    {call : Page ε → σ' → Page ε × σ'} (pos : σ' → ℕ × σ)
    (hsome : ∀ page s i, (loop dump (pos s).1 0 page (pos s).2 xs).2.2 = some i →
      (call page s).1 = (loop dump (pos s).1 0 page (pos s).2 xs).1 ∧
      pos (call page s).2 = (i, (loop dump (pos s).1 0 page (pos s).2 xs).2.1))
    (hnone : ∀ page s, (loop dump (pos s).1 0 page (pos s).2 xs).2.2 = none →
      (call page s).1 = (loop dump (pos s).1 0 page (pos s).2 xs).1 ∧
      (listRest rest start (pos s) xs ≠ [] → xs.length ≤ (pos (call page s).2).1)) :
    Continues size call fun s => listRest rest start (pos s) xs := by
  have hskip : ∀ page s, loop dump (pos s).1 0 page (pos s).2 xs =
      loop dump (pos s).1 (pos s).1 page (pos s).2 (xs.drop (pos s).1) := fun page s => by
    rw [loop_of_le (Nat.zero_le _), Nat.sub_zero]
  constructor
  · intro page s hrest
    cases hr : (loop dump (pos s).1 0 page (pos s).2 xs).2.2 with
    | some i =>
      rw [hskip] at hr
      obtain ⟨-, out, e, es, hpending, -⟩ := h.loop_abort le_rfl hr
      rw [listRest, hpending] at hrest
      exact absurd hrest (by simp)
    | none =>
      rw [(hnone page s hr).1, hskip]
      rw [hskip] at hr
      rw [h.loop_complete le_rfl hr, show pending rest start (pos s).2 (xs.drop (pos s).1) = []
        from hrest, Page.append_nil]
  · intro page s hne
    cases hr : (loop dump (pos s).1 0 page (pos s).2 xs).2.2 with
    | some i =>
      obtain ⟨hpage, hpos⟩ := hsome page s i hr
      rw [hskip] at hr hpage hpos
      obtain ⟨hle, out, e, es, hpending, hloop, hleft, hfits⟩ := h.loop_abort le_rfl hr
      rw [List.drop_drop, Nat.add_sub_cancel' hle] at hleft
      have hrest : listRest rest start (pos (call page s).2) xs = e :: es := by
        rw [hpos]
        exact hleft
      refine ⟨out, ?_, hpage.trans hloop, fun e' es' heq => ?_⟩
      · rw [hrest]
        exact hpending
      · rw [hrest, List.cons.injEq] at heq
        exact heq.1 ▸ hfits
    | none =>
      obtain ⟨hpage, hpos⟩ := hnone page s hr
      rw [hskip] at hr hpage
      have hrest : listRest rest start (pos (call page s).2) xs = [] := by
        rw [listRest, List.drop_eq_nil_of_le (hpos hne)]
        rfl
      refine ⟨listRest rest start (pos s) xs, ?_, ?_, fun e es heq => ?_⟩
      · rw [hrest, List.append_nil]
      · rw [hpage, h.loop_complete le_rfl hr]
        rfl
      · rw [hrest] at heq
        exact absurd heq (by simp)

variable {call : Page ε → σ → Page ε × σ} {left : σ → List ε}

/-- The calls after the first one. -/
lemma position_succ (caps : ℕ → ℕ) (s : σ) (k : ℕ) :
    position call caps s (k + 1) =
      position call (fun i => caps (i + 1)) (call ⟨caps 0, []⟩ s).2 k := by
  induction k with
  | zero => rfl
  | succ k ih => rw [position, ih, position]

lemma message_succ (caps : ℕ → ℕ) (s : σ) (k : ℕ) :
    message call caps s (k + 1) =
      message call (fun i => caps (i + 1)) (call ⟨caps 0, []⟩ s).2 k := by
  unfold message
  rw [position_succ]

/-- **The pages have all entries**, once and in order: if every page has room for any one entry,
then the first page without an entry comes after those that have what was to come at the start.

**Proof sketch.** Induction on how much is still to come.  A call writes a first part of that, which
is not empty since the first entry fits. -/
theorem Continues.complete (h : Continues size call left) {caps : ℕ → ℕ} {s : σ}
    (hcaps : ∀ k, ∀ e ∈ left s, size e ≤ caps k) :
    ∃ n, message call caps s n = [] ∧ (∀ k < n, message call caps s k ≠ []) ∧
      (List.range n).flatMap (message call caps s) = left s := by
  obtain ⟨len, hlen⟩ : ∃ len, (left s).length = len := ⟨_, rfl⟩
  induction len using Nat.strong_induction_on generalizing s caps with
  | _ len ih =>
    by_cases hs : left s = []
    · refine ⟨0, ?_, fun k hk => absurd hk (Nat.not_lt_zero k), ?_⟩
      · rw [message, position, h.done _ s hs]
      · rw [hs]
        rfl
    · obtain ⟨out, hleft, hpage, hfits⟩ := h.step ⟨caps 0, []⟩ s hs
      have hout : out ≠ [] := by
        rintro rfl
        rw [List.nil_append] at hleft
        obtain ⟨e, es, hes⟩ := List.exists_cons_of_ne_nil hs
        refine hfits e es (hleft.symm.trans hes) ?_
        have hsize := hcaps 0 e (hes ▸ List.mem_cons_self)
        simpa [Page.Fits, Page.append] using hsize
      have hshort : (left (call ⟨caps 0, []⟩ s).2).length < len := by
        have hpos : 0 < out.length := List.length_pos_of_ne_nil hout
        rw [← hlen, hleft, List.length_append]
        omega
      have hcaps' : ∀ k, ∀ e ∈ left (call ⟨caps 0, []⟩ s).2, size e ≤ caps (k + 1) :=
        fun k e he => hcaps (k + 1) e (hleft ▸ List.mem_append_right _ he)
      obtain ⟨n, hnil, hne, hall⟩ := ih _ hshort hcaps' rfl
      have hfirst : message call caps s 0 = out := by
        rw [message, position, hpage]
        rfl
      refine ⟨n + 1, ?_, fun k hk => ?_, ?_⟩
      · rw [message_succ, hnil]
      · cases k with
        | zero => rw [hfirst]; exact hout
        | succ k => rw [message_succ]; exact hne k (Nat.lt_of_succ_lt_succ hk)
      · rw [List.range_succ_eq_map, List.flatMap_cons, hfirst, List.flatMap_map, hleft, ← hall]
        congr 1
        exact List.flatMap_congr fun k _ => message_succ caps s k

end Paging
