import BatmanAdv.Lib.BigEndian
import Mathlib.Data.List.Basic

set_option relaxedAutoImplicit false
set_option autoImplicit false

/-!
# Programs of the classic packet filter

A packet filter is a program for a machine with one accumulator.  It loads bytes of the packet,
compares them with constants, jumps forward, and returns how many bytes of the packet are accepted;
0 rejects it.  A load behind the end of the packet rejects it, too.

Such a program is mostly a list of checks of fields that all have to succeed.  The jumps of the
program count the instructions up to the one that rejects the packet, so that each of them depends
on all checks that follow.  `Bpf.compile` computes them from the checks.

## Main definitions

* `Bpf.Insn`, `Bpf.run` — instructions, and what a program returns for a packet.
* `Bpf.Check`, `Bpf.Field` — checks of what was loaded, and the checks of a field.
* `Bpf.compile` — the program that performs all checks.

## Main results

* `Bpf.exec_eq_run` — programs end, as jumps go forward.
* `Bpf.run_compile` — **the compiled program accepts the packets that pass all checks**.
-/

namespace Bpf

/-! ### The machine -/

/-- The number of bytes of a load. -/
inductive Size
  | byte
  | half
  | word
deriving DecidableEq, Repr

/-- The number of bytes. -/
def Size.bytes : Size → ℕ
  | byte => 1
  | half => 2
  | word => 4

/-- The instructions: a load of a field at an offset or of the length of the packet, conditional
jumps over the given numbers of instructions, and the return. -/
inductive Insn
  | ldAbs (size : Size) (k : ℕ)
  | ldLen
  | jeq (k : BitVec 32) (jt jf : ℕ)
  | jgt (k : BitVec 32) (jt jf : ℕ)
  | jge (k : BitVec 32) (jt jf : ℕ)
  | ret (k : BitVec 32)
deriving DecidableEq, Repr

/-- The number at an offset of a packet, in network order. -/
def load (pkt : List (BitVec 8)) (size : Size) (k : ℕ) : Option (BitVec 32) :=
  if k + size.bytes ≤ pkt.length then
    some (BigEndian.word 32 ((pkt.drop k).take size.bytes))
  else none

/-- A byte that is loaded. -/
lemma load_byte (pkt : List (BitVec 8)) (k : ℕ) :
    load pkt .byte k = pkt[k]?.map (BitVec.setWidth 32) := by
  have htake : (pkt.drop k).take (Size.bytes .byte) = pkt[k]?.toList := by
    show (pkt.drop k).take 1 = _
    rw [List.take_one, List.head?_drop]
  unfold load
  rw [htake]
  by_cases hin : k < pkt.length
  · rw [if_pos (show k + Size.bytes .byte ≤ pkt.length from hin), List.getElem?_eq_getElem hin]
    simp [BigEndian.word]
  · rw [if_neg (show ¬k + Size.bytes .byte ≤ pkt.length from hin),
      List.getElem?_eq_none (not_lt.1 hin)]
    rfl

/-- A load finds a number if its bytes are there. -/
lemma load_eq_some_iff {pkt : List (BitVec 8)} {size : Size} {k : ℕ} {bytes : List (BitVec 8)}
    (hlen : bytes.length = size.bytes) :
    load pkt size k = some (BigEndian.word 32 bytes) ↔ (pkt.drop k).take size.bytes = bytes := by
  have hroom : 256 ^ bytes.length ≤ 2 ^ 32 := by
    rw [hlen]
    cases size <;> decide
  have hpos : 0 < size.bytes := by cases size <;> decide
  unfold load
  by_cases hin : k + size.bytes ≤ pkt.length
  · have htake : ((pkt.drop k).take size.bytes).length = bytes.length := by
      rw [List.length_take, List.length_drop, hlen]
      omega
    rw [if_pos hin, Option.some_inj, BigEndian.word_inj htake hroom]
  · rw [if_neg hin]
    refine ⟨fun h => (Option.some_ne_none _ h.symm).elim, fun h => ?_⟩
    have hshort := congrArg List.length h
    rw [List.length_take, List.length_drop, hlen] at hshort
    omega

/-- What at most `n` instructions return, from the rest of a program on. -/
def exec (pkt : List (BitVec 8)) : ℕ → List Insn → BitVec 32 → BitVec 32
  | 0, _, _ => 0
  | _, [], _ => 0
  | n + 1, insn :: prog, a =>
    match insn with
    | .ldAbs size k =>
      match load pkt size k with
      | none => 0
      | some a => exec pkt n prog a
    | .ldLen => exec pkt n prog (BitVec.ofNat 32 pkt.length)
    | .jeq k jt jf => exec pkt n (prog.drop (if a = k then jt else jf)) a
    | .jgt k jt jf => exec pkt n (prog.drop (if k < a then jt else jf)) a
    | .jge k jt jf => exec pkt n (prog.drop (if k ≤ a then jt else jf)) a
    | .ret k => k

/-- What a program returns for a packet. -/
def run (pkt : List (BitVec 8)) (prog : List Insn) (a : BitVec 32) : BitVec 32 :=
  exec pkt prog.length prog a

variable {pkt : List (BitVec 8)}

/-- **Programs end**: no more instructions are executed than the program has.

**Proof sketch.** Induction on the number of instructions that may be executed; jumps go forward. -/
theorem exec_eq_run (n : ℕ) (prog : List Insn) (hn : prog.length ≤ n) (a : BitVec 32) :
    exec pkt n prog a = run pkt prog a := by
  induction n using Nat.strongRecOn generalizing prog a with
  | ind n ih =>
    cases prog with
    | nil => cases n <;> rfl
    | cons insn prog =>
      cases n with
      | zero => simp at hn
      | succ n =>
        rw [List.length_cons] at hn
        -- both sides go on with the same instructions
        have hgo : ∀ (m : ℕ) (b : BitVec 32),
            exec pkt n (prog.drop m) b = exec pkt prog.length (prog.drop m) b := by
          intro m b
          have hlen : (prog.drop m).length ≤ prog.length := by
            rw [List.length_drop]
            omega
          rw [ih n (by omega) _ (by omega), ih prog.length (by omega) _ hlen]
        have hnext := hgo 0
        rw [List.drop_zero] at hnext
        unfold run
        rw [List.length_cons]
        cases insn with
        | ldAbs size k =>
          simp only [exec]
          cases load pkt size k with
          | none => rfl
          | some b => exact hnext b
        | ldLen => exact hnext _
        | jeq k jt jf => exact hgo _ _
        | jgt k jt jf => exact hgo _ _
        | jge k jt jf => exact hgo _ _
        | ret k => rfl

/-! ### One instruction -/

section Run

variable (prog : List Insn) (a : BitVec 32)

lemma run_drop (n : ℕ) : exec pkt prog.length (prog.drop n) a = run pkt (prog.drop n) a := by
  refine exec_eq_run _ _ ?_ a
  rw [List.length_drop]
  omega

lemma run_ldAbs (size : Size) (k : ℕ) :
    run pkt (.ldAbs size k :: prog) a = (load pkt size k).elim 0 (run pkt prog) := by
  show (match load pkt size k with | none => 0 | some a => exec pkt prog.length prog a) = _
  cases load pkt size k <;> rfl

lemma run_ldLen : run pkt (.ldLen :: prog) a = run pkt prog (BitVec.ofNat 32 pkt.length) := rfl

lemma run_jeq (k : BitVec 32) (jt jf : ℕ) :
    run pkt (.jeq k jt jf :: prog) a = run pkt (prog.drop (if a = k then jt else jf)) a :=
  run_drop prog a _

lemma run_jgt (k : BitVec 32) (jt jf : ℕ) :
    run pkt (.jgt k jt jf :: prog) a = run pkt (prog.drop (if k < a then jt else jf)) a :=
  run_drop prog a _

lemma run_jge (k : BitVec 32) (jt jf : ℕ) :
    run pkt (.jge k jt jf :: prog) a = run pkt (prog.drop (if k ≤ a then jt else jf)) a :=
  run_drop prog a _

lemma run_ret (k : BitVec 32) : run pkt (.ret k :: prog) a = k := rfl

end Run

/-! ### Checks -/

/-- A check of the accumulator: it is not less or not greater than a constant, or it is one of
several constants. -/
inductive Check
  | ge (k : BitVec 32)
  | le (k : BitVec 32)
  | oneOf (k : BitVec 32) (ks : List (BitVec 32))
deriving DecidableEq, Repr

/-- Whether a value passes a check. -/
def Check.Passes (a : BitVec 32) : Check → Prop
  | ge k => k ≤ a
  | le k => a ≤ k
  | oneOf k ks => a = k ∨ a ∈ ks

instance Check.decidablePasses (a : BitVec 32) (c : Check) : Decidable (c.Passes a) :=
  match c with
  | ge k => inferInstanceAs (Decidable (k ≤ a))
  | le k => inferInstanceAs (Decidable (a ≤ k))
  | oneOf k ks => inferInstanceAs (Decidable (a = k ∨ a ∈ ks))

/-- A field of the packet, or its length, with the checks that it has to pass. -/
structure Field where
  loaded : Option (Size × ℕ)
  checks : List Check
deriving DecidableEq, Repr

/-- The instruction that loads a field. -/
def Field.insn (f : Field) : Insn :=
  match f.loaded with
  | none => .ldLen
  | some (size, k) => .ldAbs size k

/-- The value of a field. -/
def Field.value (pkt : List (BitVec 8)) (f : Field) : Option (BitVec 32) :=
  match f.loaded with
  | none => some (BitVec.ofNat 32 pkt.length)
  | some (size, k) => load pkt size k

/-- Whether a packet has a field that passes its checks. -/
def Field.Passes (pkt : List (BitVec 8)) (f : Field) : Prop :=
  ∃ a, f.value pkt = some a ∧ ∀ c ∈ f.checks, c.Passes a

/-- The comparisons with several constants, before `rest` instructions that go on.  One that
succeeds jumps over those that are left; the last one that fails jumps over the rest and over the
return that accepts the packet. -/
def compileOneOf (rest : ℕ) (k : BitVec 32) : List (BitVec 32) → List Insn
  | [] => [.jeq k 0 (rest + 1)]
  | k' :: ks => .jeq k (ks.length + 1) 0 :: compileOneOf rest k' ks

/-- The instructions for a check. -/
def Check.compile (rest : ℕ) : Check → List Insn
  | ge k => [.jge k 0 (rest + 1)]
  | le k => [.jgt k (rest + 1) 0]
  | oneOf k ks => compileOneOf rest k ks

/-- The instructions for checks of the same field. -/
def compileChecks (rest : ℕ) : List Check → List Insn
  | [] => []
  | c :: cs =>
    let later := compileChecks rest cs
    c.compile (later.length + rest) ++ later

/-- The instructions for fields. -/
def compileFields : List Field → List Insn
  | [] => []
  | f :: fs =>
    let later := compileFields fs
    f.insn :: compileChecks later.length f.checks ++ later

/-- The two ends of a program: it accepts the packet, or it rejects it. -/
def exits (accept : BitVec 32) : List Insn := [.ret accept, .ret 0]

/-- **The program** that accepts packets that pass all checks. -/
def compile (fields : List Field) (accept : BitVec 32) : List Insn :=
  compileFields fields ++ exits accept

/-! ### The compiled program -/

section Compile

variable {accept : BitVec 32}

/-- Instructions that go on with the rest of the program if the accumulator passes, and reject the
packet if not. -/
def Checks (pkt : List (BitVec 8)) (rest : ℕ) (code : List Insn) (P : BitVec 32 → Prop) : Prop :=
  ∀ (later : List Insn) (accept : BitVec 32) (a : BitVec 32), later.length = rest →
    (P a → run pkt (code ++ (later ++ exits accept)) a =
      run pkt (later ++ exits accept) a) ∧
    (¬P a → run pkt (code ++ (later ++ exits accept)) a = 0)

/-- The instructions behind the one that accepts. -/
lemma drop_rejects (later : List Insn) {rest : ℕ} (hlen : later.length = rest) (a : BitVec 32) :
    run pkt ((later ++ exits accept).drop (rest + 1)) a = 0 := by
  rw [← hlen, List.drop_append]
  simp only [List.drop_of_length_le (Nat.le_succ later.length), Nat.add_sub_cancel_left,
    List.nil_append]
  rfl

/-- Comparisons with several constants. -/
lemma checks_compileOneOf (rest : ℕ) (k : BitVec 32) (ks : List (BitVec 32)) :
    Checks pkt rest (compileOneOf rest k ks) fun a => a = k ∨ a ∈ ks := by
  induction ks generalizing k with
  | nil =>
    intro later accept a hlen
    have hrun : run pkt (compileOneOf rest k [] ++ (later ++ exits accept)) a =
        run pkt ((later ++ exits accept).drop (if a = k then 0 else rest + 1)) a :=
      run_jeq _ _ _ _ _
    rw [hrun]
    constructor
    · intro h
      rw [if_pos (by simpa using h), List.drop_zero]
    · intro h
      rw [if_neg (by simpa using h), drop_rejects later hlen]
  | cons k' ks ih =>
    intro later accept a hlen
    have hcode : (compileOneOf rest k' ks).length = ks.length + 1 := by
      clear ih
      induction ks generalizing k' with
      | nil => rfl
      | cons k'' ks ih => simp [compileOneOf, ih]
    have hrun : run pkt (compileOneOf rest k (k' :: ks) ++ (later ++ exits accept)) a =
        run pkt ((compileOneOf rest k' ks ++ (later ++ exits accept)).drop
          (if a = k then ks.length + 1 else 0)) a := run_jeq _ _ _ _ _
    obtain ⟨hpass, hfail⟩ := ih k' later accept a hlen
    rw [hrun]
    by_cases hk : a = k
    · -- the comparisons that are left are jumped over
      rw [if_pos hk, ← hcode, List.drop_left]
      exact ⟨fun _ => rfl, fun h => absurd (.inl hk) h⟩
    · rw [if_neg hk, List.drop_zero]
      exact ⟨fun h => hpass (List.mem_cons.1 (h.resolve_left hk)),
        fun h => hfail fun hks => h (.inr (List.mem_cons.2 hks))⟩

/-- One check. -/
lemma checks_compile (rest : ℕ) (c : Check) :
    Checks pkt rest (c.compile rest) fun a => c.Passes a := by
  cases c with
  | ge k =>
    intro later accept a hlen
    have hrun : run pkt ((Check.ge k).compile rest ++ (later ++ exits accept)) a =
        run pkt ((later ++ exits accept).drop (if k ≤ a then 0 else rest + 1)) a :=
      run_jge _ _ _ _ _
    rw [hrun]
    constructor
    · intro (h : k ≤ a)
      rw [if_pos h, List.drop_zero]
    · intro (h : ¬k ≤ a)
      rw [if_neg h, drop_rejects later hlen]
  | le k =>
    intro later accept a hlen
    have hrun : run pkt ((Check.le k).compile rest ++ (later ++ exits accept)) a =
        run pkt ((later ++ exits accept).drop (if k < a then rest + 1 else 0)) a :=
      run_jgt _ _ _ _ _
    rw [hrun]
    constructor
    · intro h
      rw [if_neg (BitVec.not_lt.2 h), List.drop_zero]
    · intro h
      rw [if_pos (BitVec.not_le.1 h), drop_rejects later hlen]
  | oneOf k ks => exact checks_compileOneOf rest k ks

/-- The checks of a field. -/
lemma checks_compileChecks (rest : ℕ) (cs : List Check) :
    Checks pkt rest (compileChecks rest cs) fun a => ∀ c ∈ cs, c.Passes a := by
  induction cs with
  | nil => exact fun later accept a _ => ⟨fun _ => rfl, fun h => absurd (by simp) h⟩
  | cons c cs ih =>
    intro later accept a hlen
    have hsplit : compileChecks rest (c :: cs) ++ (later ++ exits accept) =
        c.compile ((compileChecks rest cs).length + rest) ++
          ((compileChecks rest cs ++ later) ++ exits accept) := by
      simp only [compileChecks, List.append_assoc]
    obtain ⟨hpass, hfail⟩ := checks_compile ((compileChecks rest cs).length + rest) c
      (compileChecks rest cs ++ later) accept a (by rw [List.length_append, hlen])
    obtain ⟨hpassLater, hfailLater⟩ := ih later accept a hlen
    rw [hsplit]
    rw [List.append_assoc (compileChecks rest cs)] at hpass hfail
    rw [List.append_assoc (compileChecks rest cs)]
    by_cases hc : c.Passes a
    · rw [hpass hc]
      refine ⟨fun h => hpassLater fun d hd => h d (List.mem_cons_of_mem _ hd), fun h => ?_⟩
      exact hfailLater fun hcs => h (List.forall_mem_cons.2 ⟨hc, hcs⟩)
    · rw [hfail hc]
      exact ⟨fun h => absurd (h c List.mem_cons_self) hc, fun _ => rfl⟩

/-- **The compiled program accepts the packets that pass all checks.**

**Proof sketch.** Induction on the fields: the jump of a check that fails ends at the last
instruction, whatever follows the check. -/
theorem run_compile (fields : List Field) (accept a : BitVec 32) :
    ((∀ f ∈ fields, f.Passes pkt) → run pkt (compile fields accept) a = accept) ∧
      ((¬∀ f ∈ fields, f.Passes pkt) → run pkt (compile fields accept) a = 0) := by
  induction fields generalizing a with
  | nil => exact ⟨fun _ => rfl, fun h => absurd (by simp) h⟩
  | cons f fields ih =>
    have hsplit : compile (f :: fields) accept =
        f.insn :: (compileChecks (compileFields fields).length f.checks ++
          (compileFields fields ++ exits accept)) := by
      simp [compile, compileFields]
    have hload : run pkt (compile (f :: fields) accept) a = (f.value pkt).elim 0
        (run pkt (compileChecks (compileFields fields).length f.checks ++
          (compileFields fields ++ exits accept))) := by
      rw [hsplit]
      unfold Field.insn Field.value
      cases f.loaded with
      | none => rfl
      | some p => exact run_ldAbs _ _ _ _
    rw [hload]
    cases hvalue : f.value pkt with
    | none =>
      refine ⟨fun h => ?_, fun _ => rfl⟩
      obtain ⟨b, hb, -⟩ := h f List.mem_cons_self
      rw [hvalue] at hb
      cases hb
    | some b =>
      obtain ⟨hpass, hfail⟩ := checks_compileChecks (compileFields fields).length f.checks
        (compileFields fields) accept b rfl
      obtain ⟨hpassLater, hfailLater⟩ := ih b
      have hfield : f.Passes pkt ↔ ∀ c ∈ f.checks, c.Passes b := by
        unfold Field.Passes
        rw [hvalue]
        exact ⟨fun ⟨_, hsome, hall⟩ => Option.some.inj hsome ▸ hall, fun h => ⟨b, rfl, h⟩⟩
      rw [List.forall_mem_cons, hfield, Option.elim_some]
      by_cases hchecks : ∀ c ∈ f.checks, c.Passes b
      · rw [hpass hchecks]
        exact ⟨fun h => hpassLater h.2, fun h => hfailLater fun hf => h ⟨hchecks, hf⟩⟩
      · rw [hfail hchecks]
        exact ⟨fun h => absurd h.1 hchecks, fun _ => rfl⟩

end Compile

end Bpf
