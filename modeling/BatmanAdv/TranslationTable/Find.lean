import BatmanAdv.TranslationTable.Accounting

set_option relaxedAutoImplicit false
set_option autoImplicit false

/-!
# Finding the entries of the global table (`translation-table.c`)

The entry of a client is found by its address and its VLAN.  An entry that is written back, taken
out or put in changes what is found for its client and for nobody else.

## Main definitions

* `Batadv.TtSameTables` — states that differ in the originators only.

## Main results

* `Batadv.ttGlobalHashFind_put`, `Batadv.ttGlobalHashFind_free`, `Batadv.ttGlobalHashFind_insert` —
  what is found when an entry was written back, taken out or put in.
* `Batadv.find_filterMap` — what is found when all entries were looked at.
-/

namespace Batadv

section Find

variable {tt tt' : TtPriv} {addr : EthAddr} {vid : U16} {e : TtGlobalEntry}

/-- Two states differ in the originators only. -/
structure TtSameTables (tt tt' : TtPriv) : Prop where
  globalHash : tt'.globalHash = tt.globalHash
  ttLocal : tt'.ttLocal = tt.ttLocal

lemma TtSameTables.refl (tt : TtPriv) : TtSameTables tt tt := ⟨rfl, rfl⟩

lemma TtSameTables.trans {tt'' : TtPriv} (h : TtSameTables tt tt') (h' : TtSameTables tt' tt'') :
    TtSameTables tt tt'' :=
  ⟨h'.globalHash.trans h.globalHash, h'.ttLocal.trans h.ttLocal⟩

/-- What is found depends on the entries only. -/
lemma ttGlobalHashFind_congr (h : tt'.globalHash = tt.globalHash) (addr : EthAddr) (vid : U16) :
    ttGlobalHashFind tt' addr vid = ttGlobalHashFind tt addr vid := by
  rw [ttGlobalHashFind, ttGlobalHashFind, h]

lemma TtSameTables.find (h : TtSameTables tt tt') (addr : EthAddr) (vid : U16) :
    ttGlobalHashFind tt' addr vid = ttGlobalHashFind tt addr vid :=
  ttGlobalHashFind_congr h.globalHash addr vid

lemma key_of_find (h : ttGlobalHashFind tt addr vid = some e) : e.key = (addr, vid) :=
  TtGlobalEntry.isFor_iff.1 (List.find?_some h)

/-- An entry of the table is found, if no client has two of them. -/
lemma find_of_mem (hkeys : (tt.globalHash.map TtGlobalEntry.key).Nodup) (h : e ∈ tt.globalHash) :
    ttGlobalHashFind tt e.addr e.vid = some e := by
  cases hfind : ttGlobalHashFind tt e.addr e.vid with
  | none =>
    exact absurd (TtGlobalEntry.isFor_iff.mpr rfl) (List.find?_eq_none.mp hfind e h)
  | some d =>
    have hkey : d.key = e.key := key_of_find hfind
    rw [List.inj_on_of_nodup_map hkeys (List.mem_of_find?_eq_some hfind) h hkey]

/-- An entry that is written back is found. -/
lemma ttGlobalHashFind_put_self (hkey : e.key = (addr, vid))
    (hfind : (ttGlobalHashFind tt addr vid).isSome = true) :
    ttGlobalHashFind (ttGlobalPut tt e) addr vid = some e := by
  obtain ⟨rfl, rfl⟩ := Prod.mk.inj hkey
  have hcomp : (TtGlobalEntry.isFor e.addr e.vid ∘ fun d : TtGlobalEntry =>
      if d.isFor e.addr e.vid then e else d) = TtGlobalEntry.isFor e.addr e.vid := by
    funext d
    rw [Function.comp_apply]
    split_ifs with hd
    · rw [hd, TtGlobalEntry.isFor_iff, TtGlobalEntry.key]
    · rfl
  obtain ⟨d, hd⟩ := Option.isSome_iff_exists.1 hfind
  rw [ttGlobalHashFind, ttGlobalPut, List.find?_map, hcomp]
  have hsome : tt.globalHash.find? (TtGlobalEntry.isFor e.addr e.vid) = some d := hd
  rw [hsome, Option.map_some, if_pos (List.find?_some hsome)]

/-- The entries of other clients stay. -/
lemma ttGlobalHashFind_put_of_ne (hkey : e.key ≠ (addr, vid)) :
    ttGlobalHashFind (ttGlobalPut tt e) addr vid = ttGlobalHashFind tt addr vid := by
  have hcomp : (TtGlobalEntry.isFor addr vid ∘ fun d : TtGlobalEntry =>
      if d.isFor e.addr e.vid then e else d) = TtGlobalEntry.isFor addr vid := by
    funext d
    rw [Function.comp_apply]
    split_ifs with hd
    · rw [Bool.eq_iff_iff, TtGlobalEntry.isFor_iff, TtGlobalEntry.isFor_iff,
        TtGlobalEntry.isFor_iff.1 hd]
      rfl
    · rfl
  have hfind : ttGlobalHashFind (ttGlobalPut tt e) addr vid =
      (ttGlobalHashFind tt addr vid).map fun d => if d.isFor e.addr e.vid then e else d := by
    rw [ttGlobalHashFind, ttGlobalPut, List.find?_map, hcomp]
    rfl
  rw [hfind]
  cases hd : ttGlobalHashFind tt addr vid with
  | none => rfl
  | some d =>
    rw [Option.map_some, if_neg]
    intro hfor
    exact hkey ((TtGlobalEntry.isFor_iff.1 hfor).symm.trans (key_of_find hd))

/-- What is found when an entry was written back. -/
lemma ttGlobalHashFind_put (hmem : e.key ∈ tt.globalHash.map TtGlobalEntry.key) (addr : EthAddr)
    (vid : U16) :
    ttGlobalHashFind (ttGlobalPut tt e) addr vid =
      if e.key = (addr, vid) then some e else ttGlobalHashFind tt addr vid := by
  split_ifs with hkey
  · refine ttGlobalHashFind_put_self hkey ?_
    obtain ⟨d, hd, hde⟩ := List.mem_map.1 hmem
    rw [ttGlobalHashFind, List.find?_isSome]
    exact ⟨d, hd, TtGlobalEntry.isFor_iff.2 (hde.trans hkey)⟩
  · exact ttGlobalHashFind_put_of_ne hkey

/-- An entry that is taken out of the table is not found. -/
lemma ttGlobalHashFind_free_self (hkey : e.key = (addr, vid)) :
    ttGlobalHashFind (ttGlobalFree tt e) addr vid = none := by
  obtain ⟨rfl, rfl⟩ := Prod.mk.inj hkey
  rw [ttGlobalHashFind, List.find?_eq_none]
  intro d hd
  simpa using (List.mem_filter.1 hd).2

lemma ttGlobalHashFind_free_of_ne (hkey : e.key ≠ (addr, vid)) :
    ttGlobalHashFind (ttGlobalFree tt e) addr vid = ttGlobalHashFind tt addr vid := by
  rw [ttGlobalHashFind, ttGlobalFree, List.find?_filter]
  refine congrArg (fun p => List.find? p tt.globalHash) (funext fun d => ?_)
  cases hd : d.isFor addr vid with
  | false => simp
  | true =>
    have hother : d.isFor e.addr e.vid = false := by
      rw [← Bool.not_eq_true, TtGlobalEntry.isFor_iff, TtGlobalEntry.isFor_iff.1 hd]
      exact hkey.symm
    simp [hother]

/-- What is found when an entry was taken out. -/
lemma ttGlobalHashFind_free (e : TtGlobalEntry) (addr : EthAddr) (vid : U16) :
    ttGlobalHashFind (ttGlobalFree tt e) addr vid =
      if e.key = (addr, vid) then none else ttGlobalHashFind tt addr vid := by
  split_ifs with hkey
  · exact ttGlobalHashFind_free_self hkey
  · exact ttGlobalHashFind_free_of_ne hkey

/-- A new entry is found, and the others are as before. -/
lemma ttGlobalHashFind_insert (n : ℕ) (hfind : ttGlobalHashFind tt e.addr e.vid = none) :
    ttGlobalHashFind
        { tt with globalHash := tt.globalHash.take n ++ e :: tt.globalHash.drop n } addr vid =
      if e.key = (addr, vid) then some e else ttGlobalHashFind tt addr vid := by
  rw [ttGlobalHashFind, List.find?_append, List.find?_cons]
  split_ifs with hkey
  · obtain ⟨rfl, rfl⟩ := Prod.mk.inj hkey
    have hself : e.isFor e.addr e.vid = true := TtGlobalEntry.isFor_iff.2 rfl
    have hnone : (tt.globalHash.take n).find? (TtGlobalEntry.isFor e.addr e.vid) = none := by
      rw [List.find?_eq_none]
      exact fun d hd => List.find?_eq_none.1 hfind d (List.mem_of_mem_take hd)
    rw [hnone, hself, Option.none_or]
  · have hother : e.isFor addr vid = false := by
      rw [← Bool.not_eq_true, TtGlobalEntry.isFor_iff]
      exact hkey
    rw [hother, ← List.find?_append, List.take_append_drop]
    rfl

/-- An entry after all entries were looked at, with different clients in the table. -/
lemma find_filterMap {f : TtGlobalEntry → Option TtGlobalEntry}
    (hf : ∀ d c, f d = some c → c.key = d.key) {l : List TtGlobalEntry}
    (hnd : (l.map TtGlobalEntry.key).Nodup) (addr : EthAddr) (vid : U16) :
    (l.filterMap f).find? (TtGlobalEntry.isFor addr vid) =
      (l.find? (TtGlobalEntry.isFor addr vid)).bind f := by
  induction l with
  | nil => rfl
  | cons d l ih =>
    rw [List.map_cons, List.nodup_cons] at hnd
    rw [List.filterMap_cons, List.find?_cons]
    cases hd : d.isFor addr vid with
    | false =>
      have hrest := ih hnd.2
      cases hfd : f d with
      | none => exact hrest
      | some c =>
        have hc : c.isFor addr vid = false := by
          rw [← Bool.not_eq_true, TtGlobalEntry.isFor_iff, hf d c hfd, ← TtGlobalEntry.isFor_iff,
            hd]
          exact Bool.false_ne_true
        dsimp only
        rw [List.find?_cons, hc]
        exact hrest
    | true =>
      have hkey := TtGlobalEntry.isFor_iff.1 hd
      dsimp only
      rw [Option.bind_some]
      cases hfd : f d with
      | none =>
        rw [List.find?_eq_none]
        intro c hc hfor
        obtain ⟨b, hb, hbc⟩ := List.mem_filterMap.1 hc
        refine hnd.1 (List.mem_map.2 ⟨b, hb, ?_⟩)
        rw [← hf b c hbc, hkey]
        exact TtGlobalEntry.isFor_iff.1 hfor
      | some c =>
        have hc : c.isFor addr vid = true := TtGlobalEntry.isFor_iff.2 ((hf d c hfd).trans hkey)
        dsimp only
        rw [List.find?_cons, hc]

/-- Taking originators off the list of a client leaves the tables. -/
lemma ttGlobalDelOrigEntries_same (env : TtEnv) (p : EthAddr → Bool) (tt : TtPriv)
    (e : TtGlobalEntry) : TtSameTables tt (ttGlobalDelOrigEntries env p tt e).1 := by
  unfold ttGlobalDelOrigEntries
  dsimp only
  generalize e.origList.filter (fun o => p o.origNode) = l
  induction l generalizing tt with
  | nil => exact .refl tt
  | cons o l ih =>
    have hfirst : TtSameTables tt (ttGlobalSizeMod env tt o.origNode e.vid (-1)) := ⟨rfl, rfl⟩
    exact hfirst.trans (ih _)

/-- So does dropping what is known of a temporary or a roaming client. -/
lemma ttGlobalAddExisting_same (env : TtEnv) (tt : TtPriv) (e : TtGlobalEntry) (flags : U16) :
    TtSameTables tt (ttGlobalAddExisting env tt e flags).1 ∧
      (ttGlobalAddExisting env tt e flags).2.key = e.key := by
  have hdel := ttGlobalDelOrigEntries_same env fun _ => true
  unfold ttGlobalAddExisting
  split_ifs <;> dsimp only <;> split_ifs <;> dsimp only
  all_goals
    first
    | exact ⟨.refl tt, rfl⟩
    | exact ⟨hdel tt e, rfl⟩
    | exact ⟨hdel tt _, rfl⟩
    | exact ⟨(hdel tt e).trans (hdel _ _), rfl⟩

end Find

end Batadv
