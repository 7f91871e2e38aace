import OslExec.LayerCalls
import OslExec.LoweringCorrect

/-!
# Layer calls on the runs of the lowered code

The proof that lazy layers are called before use (`LayerCalls`) takes `PathFacts` as given:
on the path it is read on, an op of the main code outside conditionals is passed before any
later op, and an op is passed before a later op of its basic block. This module proves both of every trace of the reference
interpreter `runOps` over a well-nested main code, and so, through the simulation
(`runMain_of_runCfg`), of every finished run of the blocks `build_llvm_code` emits when every
straight-line generator succeeds. What it assumes of the two arrays is what they record
of the op stream:

- `m_in_conditional` is false at `j` only if no op of the main code before `j` jumps past it
  (`Unenclosed`);
- `m_bblockids` is equal at `j < k` only if no jump lands in `(j, k]` (`NoJumpInto`).

Both are cases of `Cut`: no op of `[pc, j)` jumps into `(j, k]`. Then a run of a well-nested
range from `pc` visits the straight-line op `j` before every visit to `k` (`runOps_passes`):
the part of the run that holds a visit to `k` starts at or before `j`, down to the run of the
range that starts at `j` itself.

## Key results

- `runOps_trace_within`: a run of a well-nested range `[pc, e)` runs only ops of the range
- `runOps_passes`: a run of a range from `pc` passes `j` before each visit to `k` when no op
  of `[pc, j)` jumps into `(j, k]`
- `LayerCalls.pathFacts_runOps`: the traces of an instance's main code satisfy `PathFacts`
- `LayerCalls.emitted_useparam_layer_called`: when every straight-line generator succeeds, on
  every finished run of the emitted code, each layer a `useparam` op needs has been called at
  that op or before it
-/

namespace OslExec

/-! ### Jumps and traces -/

theorem le_foldl_max_init {l : List Int} {a : Int} : a ≤ l.foldl max a := by
  induction l generalizing a with
  | nil => exact Int.le_refl a
  | cons y l ih => exact Int.le_trans (Int.le_max_left a y) ih

theorem le_foldl_max_of_mem {l : List Int} {a x : Int} (h : x ∈ l) : x ≤ l.foldl max a := by
  induction l generalizing a with
  | nil => cases h
  | cons y l ih =>
    rcases List.mem_cons.mp h with rfl | h
    · exact Int.le_trans (Int.le_max_right a x) le_foldl_max_init
    · exact ih h

namespace Opcode

theorem jump_le_farthestJump (op : Opcode) (t : Nat) : op.jump t ≤ op.farthestJump := by
  simp only [jump, farthestJump, List.getD_eq_getElem?_getD]
  cases h : op.jumps[t]? with
  | none => exact le_foldl_max_init
  | some x => exact le_foldl_max_of_mem (List.getElem?_mem h)

theorem target_le_of_farthestJump_le {op : Opcode} {j : Nat} (h : op.farthestJump ≤ j)
    (t : Nat) : op.target t ≤ j := by
  have := op.jump_le_farthestJump t
  simp only [target]
  omega

/-- A `useparam` op is straight-line code for `build_llvm_code`. -/
theorem role_useparam {op : Opcode} (h : op.opname = "useparam") : op.role = .straight := by
  simp only [role, h]
  rfl

end Opcode

/-- No op of `[pc, j)` jumps into `(j, k]`. -/
def Cut (ops : List Opcode) (pc j k : Nat) : Prop :=
  ∀ (i : Nat) (op : Opcode) (t : Nat), pc ≤ i → i < j → ops[i]? = some op → op.target t ≤ j ∨ k < op.target t

theorem Cut.mono {ops : List Opcode} {pc pc' j k : Nat} (h : Cut ops pc j k) (hle : pc ≤ pc') :
    Cut ops pc' j k := fun i op t hi => h i op t (le_trans hle hi)

/-- Op `j` is in no `if`, loop or inlined function that starts in `[b, j)`: no op there jumps
past it. What `m_in_conditional` being false at `j` says of the main code from `b`. -/
def Unenclosed (ops : List Opcode) (b j : Nat) : Prop :=
  ∀ (i : Nat) (op : Opcode), b ≤ i → i < j → ops[i]? = some op → op.farthestJump ≤ j

/-- No jump of the op stream lands in `(j, k]`, so a basic block that holds `j` and `k` begins
at or before `j`. What equal `m_bblockids` at `j < k` say. -/
def NoJumpInto (ops : List Opcode) (j k : Nat) : Prop :=
  ∀ (i : Nat) (op : Opcode) (t : Nat), ops[i]? = some op → op.target t ≤ j ∨ k < op.target t

theorem Unenclosed.cut {ops : List Opcode} {b j : Nat} (h : Unenclosed ops b j) (k : Nat) :
    Cut ops b j k := fun i op t hb hj hop =>
  .inl (Opcode.target_le_of_farthestJump_le (h i op hb hj hop) t)

theorem NoJumpInto.cut {ops : List Opcode} {j k : Nat} (h : NoJumpInto ops j k) (pc : Nat) :
    Cut ops pc j k := fun i op t _ _ hop => h i op t hop

/-- Every op of the trace `tr` is in `[a, c)`. -/
def Within (a c : Nat) (tr : List Nat) : Prop := ∀ x ∈ tr, a ≤ x ∧ x < c

theorem Within.append {a c : Nat} {l1 l2 : List Nat} (h1 : Within a c l1) (h2 : Within a c l2) :
    Within a c (l1 ++ l2) := fun x hx => (List.mem_append.mp hx).elim (h1 x) (h2 x)

theorem Within.mono {a c a' c' : Nat} {tr : List Nat} (h : Within a c tr) (ha : a' ≤ a)
    (hc : c ≤ c') : Within a' c' tr := fun x hx => by
  have := h x hx
  omega

/-- Every visit to `k` in the trace `tr` comes after a visit to `j`. -/
def Passes (j k : Nat) (tr : List Nat) : Prop :=
  ∀ p : Nat, tr[p]? = some k → ∃ q < p, tr[q]? = some j

namespace Passes

variable {j k : Nat}

theorem of_not_mem {tr : List Nat} (h : k ∉ tr) : Passes j k tr := fun _ hp =>
  absurd (List.getElem?_mem hp) h

theorem append {l1 l2 : List Nat} (h1 : Passes j k l1) (h2 : Passes j k l2) :
    Passes j k (l1 ++ l2) := by
  intro p hp
  rcases Nat.lt_or_ge p l1.length with hlt | hge
  · rw [List.getElem?_append_left hlt] at hp
    obtain ⟨q, hq, hqj⟩ := h1 p hp
    exact ⟨q, hq, by rwa [List.getElem?_append_left (by omega)]⟩
  · rw [List.getElem?_append_right hge] at hp
    obtain ⟨q, hq, hqj⟩ := h2 _ hp
    refine ⟨l1.length + q, by omega, ?_⟩
    rwa [List.getElem?_append_right (by omega), Nat.add_sub_cancel_left]

/-- A trace that starts at `j` passes it before any visit to another op. -/
theorem cons_self (hjk : j ≠ k) (tr : List Nat) : Passes j k (j :: tr) := by
  rintro (_ | p) hp
  · exact absurd (Option.some.inj (List.getElem?_cons_zero.symm.trans hp)) hjk
  · exact ⟨0, by omega, List.getElem?_cons_zero⟩

/-- A trace whose ops are at least `a` passes `j` before `k` if it does so when it starts at or
before `j`, and `k < a` otherwise. -/
theorem of_start {a : Nat} {tr : List Nat} (hin : ∀ x ∈ tr, a ≤ x) (hcut : a ≤ j ∨ k < a)
    (h : a ≤ j → Passes j k tr) : Passes j k tr :=
  hcut.elim h fun hk => of_not_mem fun hm => absurd (hin k hm) (by omega)

end Passes

/-! ### What the structured interpreter's traces are made of -/

/-- The trace of a sequenced run is the first run's, followed by the second one's if it ran. -/
theorem Run.andThen_trace {σ : Type} {x : Option (Run σ)} {k : σ → Option (Run σ)} {r : Run σ}
    (h : Run.andThen x k = some r) : ∃ r1, x = some r1 ∧
      (r.trace = r1.trace ∨ ∃ s r2, k s = some r2 ∧ r.trace = r1.trace ++ r2.trace) := by
  obtain ⟨r1, h1, ⟨-, hr⟩ | ⟨-, r2, h2, hr⟩⟩ := Run.andThen_eq_some h
  · exact ⟨r1, h1, .inl (by rw [hr])⟩
  · exact ⟨r1, h1, .inr ⟨_, r2, h2, by rw [hr, Run.prepend_trace]⟩⟩

theorem Run.catchRet_trace {σ : Type} {x : Option (Run σ)} {r : Run σ}
    (h : Run.catchRet x = some r) : ∃ r1, x = some r1 ∧ r.trace = r1.trace := by
  obtain ⟨r1, h1, rfl⟩ := Option.map_eq_some'.mp h
  exact ⟨r1, h1, by split <;> rfl⟩

section Traces

variable {σ : Type} (ops : List Opcode) (args : List Nat) (exec : Nat → σ → σ)
  (test : Nat → σ → Bool) (debug : Bool)

/-- The trace of a loop: its first phase's, followed by the trace of the loop from the next
phase if it goes on. -/
theorem runLoop_trace {F pc : Nat} {op : Opcode} {ph : LoopPhase} {s : σ} {o : Run σ}
    (h : runLoop ops args exec test (F + 1) op pc ph s = some o) :
    ∃ r1, runOps ops args exec test F (ph.first op pc) (ph.last op) s = some r1 ∧
      (o.trace = r1.trace ∨ ∃ ph' s' o', runLoop ops args exec test F op pc ph' s' = some o' ∧
        o.trace = r1.trace ++ o'.trace) := by
  simp only [runLoop] at h
  cases h1 : runOps ops args exec test F (ph.first op pc) (ph.last op) s with
  | none => simp [h1] at h
  | some r1 =>
    refine ⟨r1, rfl, ?_⟩
    rcases r1 with ⟨_ | _ | _ | _ | _, tr, s1⟩ <;> simp only [h1] at h
    · split at h
      · obtain ⟨o', h', rfl⟩ := Option.map_eq_some'.mp h
        exact .inr ⟨_, _, o', h', rfl⟩
      · cases h
        exact .inl rfl
    · cases h
      exact .inl rfl
    · obtain ⟨o', h', rfl⟩ := Option.map_eq_some'.mp h
      exact .inr ⟨_, _, o', h', rfl⟩
    all_goals cases h; exact .inl rfl

/-- The runs with `F` fuel of well-nested ranges stay in their range. -/
def OpsWithin (F : Nat) : Prop :=
  ∀ {l r pc e} {s : σ} {o : Run σ}, WellNested ops debug l r pc e →
    runOps ops args exec test F pc e s = some o → Within pc e o.trace

/-- The same for a loop op at `pc` from any phase: its ops are after `pc` and before its last
jump target. -/
def LoopWithin (F : Nat) : Prop :=
  ∀ {r pc op ph} {s : σ} {o : Run σ}, op.LoopNested pc →
    (∀ ph : LoopPhase, WellNested ops debug true r (ph.first op pc) (ph.last op)) →
    runLoop ops args exec test F op pc ph s = some o → Within (pc + 1) (op.target 3) o.trace

variable {ops args exec test debug}

theorem loopWithin_succ {F : Nat} (ih : OpsWithin ops args exec test debug F)
    (ihl : LoopWithin ops args exec test debug F) : LoopWithin ops args exec test debug (F + 1) := by
  intro r pc op ph s o hnest hph ho
  obtain ⟨hb1, -, hb3⟩ := ph.bounds hnest
  obtain ⟨r1, h1, htr | ⟨ph', s', o', h', htr⟩⟩ := runLoop_trace ops args exec test ho <;>
    rw [htr]
  · exact (ih (hph ph) h1).mono hb1 hb3
  · exact ((ih (hph ph) h1).mono hb1 hb3).append (ihl hnest hph h')

theorem opsWithin_succ {F : Nat} (ih : OpsWithin ops args exec test debug F)
    (ihl : LoopWithin ops args exec test debug F) : OpsWithin ops args exec test debug (F + 1) := by
  intro l r pc e s o hwn ho
  cases hwn with
  | done h =>
    simp only [runOps, show ¬ pc < e by omega, if_false, Option.some.injEq] at ho
    subst ho
    exact fun _ h => nomatch h
  | straight hlt hop hrole _ hrest =>
    simp only [runOps, hlt, hop, hrole, if_true] at ho
    obtain ⟨o', ho', rfl⟩ := Option.map_eq_some'.mp ho
    exact Within.append (fun x hx => by simp at hx; omega) ((ih hrest ho').mono (by omega) le_rfl)
  | nop hlt hop hrole _ hrest =>
    simp only [runOps, hlt, hop, hrole, if_true] at ho
    exact (ih hrest ho).mono (by omega) le_rfl
  | ifOp hlt hop hrole ht0 ht01 ht1 _ hthen helse hrest =>
    simp only [runOps, hlt, hop, hrole, if_true] at ho
    obtain ⟨r1, h1, htr⟩ := Run.andThen_trace ho
    have hbranch : Within pc e r1.trace := by
      split at h1
      · exact (ih hthen h1).mono (by omega) (by omega)
      · exact (ih helse h1).mono (by omega) (by omega)
    rcases htr with htr | ⟨s', r2, h2, htr⟩ <;> rw [htr]
    · exact hbranch
    · exact hbranch.append ((ih hrest h2).mono (by omega) le_rfl)
  | loopOp hlt hop hrole hnest ht3 _ hph hrest =>
    simp only [runOps, hlt, hop, hrole, if_true] at ho
    obtain ⟨r1, h1, htr | ⟨s', r2, h2, htr⟩⟩ := Run.andThen_trace ho <;> rw [htr]
    · exact (ihl hnest hph h1).mono (by omega) ht3
    · exact ((ihl hnest hph h1).mono (by omega) ht3).append
        ((ih hrest h2).mono (by obtain ⟨_, _, _, _⟩ := hnest; omega) le_rfl)
  | loopmodOp hlt hop hrole _ _ _ =>
    simp only [runOps, hlt, hop, hrole, if_true, Option.some.injEq] at ho
    subst ho
    exact fun _ h => nomatch h
  | functioncall hlt hop hrole ht0 hte _ hbody hrest
  | functioncallNr hlt hop hrole _ ht0 hte _ hbody hrest =>
    simp only [runOps, hlt, hop, hrole, if_true] at ho
    obtain ⟨r1, h1, htr | ⟨s', r2, h2, htr⟩⟩ := Run.andThen_trace ho <;>
      obtain ⟨r0, h0, h01⟩ := Run.catchRet_trace h1 <;> rw [htr, h01]
    · exact (ih hbody h0).mono (by omega) hte
    · exact ((ih hbody h0).mono (by omega) hte).append ((ih hrest h2).mono (by omega) le_rfl)
  | returnOp hlt hop hrole _ _ _ =>
    simp only [runOps, hlt, hop, hrole, if_true, Option.some.injEq] at ho
    subst ho
    exact fun _ h => nomatch h

theorem opsWithin (F : Nat) :
    OpsWithin ops args exec test debug F ∧ LoopWithin ops args exec test debug F := by
  induction F with
  | zero => exact ⟨fun _ h => by simp [runOps] at h, fun _ _ h => by simp [runLoop] at h⟩
  | succ F ih => exact ⟨opsWithin_succ ih.1 ih.2, loopWithin_succ ih.1 ih.2⟩

/-- A run of a well-nested range `[pc, e)` runs only ops of the range. -/
theorem runOps_trace_within {l r : Bool} {F pc e : Nat} {s : σ} {o : Run σ}
    (hwn : WellNested ops debug l r pc e) (ho : runOps ops args exec test F pc e s = some o) :
    Within pc e o.trace :=
  (opsWithin F).1 hwn ho

end Traces

section Passing

variable {σ : Type} (ops : List Opcode) (args : List Nat) (exec : Nat → σ → σ)
  (test : Nat → σ → Bool) (debug : Bool) (j k : Nat)

/-- The runs with `F` fuel of well-nested ranges from `pc` at or before `j`, when no op of
`[pc, j)` jumps into `(j, k]`, pass `j` before each visit to `k`. -/
def OpsPass (F : Nat) : Prop :=
  ∀ {l r pc e} {s : σ} {o : Run σ}, WellNested ops debug l r pc e →
    runOps ops args exec test F pc e s = some o → pc ≤ j → Cut ops pc j k → Passes j k o.trace

/-- The same for the loop op `op` at `pc` before `j`, from any phase. -/
def LoopPass (F : Nat) : Prop :=
  ∀ {r pc op ph} {s : σ} {o : Run σ}, ops[pc]? = some op → op.LoopNested pc →
    (∀ ph : LoopPhase, WellNested ops debug true r (ph.first op pc) (ph.last op)) →
    runLoop ops args exec test F op pc ph s = some o → pc < j → Cut ops pc j k →
    Passes j k o.trace

variable {ops args exec test debug j k}

/-- A run of a nested range that starts at `a`, after `pc`: it passes `j` before `k` when it
starts at or before `j`, and does not visit `k` when it starts after `k`. -/
theorem OpsPass.of_cut {F : Nat} (ih : OpsPass ops args exec test debug j k F) {l r : Bool}
    {pc a b : Nat} {s : σ} {o : Run σ} (hw : WellNested ops debug l r a b)
    (ho : runOps ops args exec test F a b s = some o) (hcut : Cut ops pc j k) (ha : pc ≤ a)
    (hc : a ≤ j ∨ k < a) : Passes j k o.trace :=
  Passes.of_start (fun x hx => (runOps_trace_within hw ho x hx).1) hc fun haj =>
    ih hw ho haj (hcut.mono ha)

theorem loopPass_succ {F : Nat} (ih : OpsPass ops args exec test debug j k F)
    (ihl : LoopPass ops args exec test debug j k F) :
    LoopPass ops args exec test debug j k (F + 1) := by
  intro r pc op ph s o hop hnest hph ho hpj hcut
  obtain ⟨hb1, -, -⟩ := ph.bounds hnest
  -- a phase starts right after the loop op or at one of its jump targets
  have hfirst : ph.first op pc ≤ j ∨ k < ph.first op pc := by
    cases ph <;> first | exact .inl hpj | exact hcut pc op _ le_rfl hpj hop
  obtain ⟨r1, h1, htr | ⟨ph', s', o', h', htr⟩⟩ := runLoop_trace ops args exec test ho <;>
    rw [htr]
  · exact ih.of_cut (hph ph) h1 hcut (by omega) hfirst
  · exact (ih.of_cut (hph ph) h1 hcut (by omega) hfirst).append (ihl hop hnest hph h' hpj hcut)

theorem opsPass_succ {F : Nat} (hj : ∀ op, ops[j]? = some op → op.role = .straight)
    (hjk : j < k) (ih : OpsPass ops args exec test debug j k F)
    (ihl : LoopPass ops args exec test debug j k F) :
    OpsPass ops args exec test debug j k (F + 1) := by
  intro l r pc e s o hwn ho hpj hcut
  -- only straight-line code can stand at `j`
  have hne : ∀ {op : Opcode}, ops[pc]? = some op → op.role ≠ .straight → pc < j :=
    fun hop hr => lt_of_le_of_ne hpj fun h => hr (hj _ (h ▸ hop))
  cases hwn with
  | done h =>
    simp only [runOps, show ¬ pc < e by omega, if_false, Option.some.injEq] at ho
    subst ho
    exact Passes.of_not_mem (List.not_mem_nil k)
  | straight hlt hop hrole _ hrest =>
    simp only [runOps, hlt, hop, hrole, if_true] at ho
    obtain ⟨o', ho', rfl⟩ := Option.map_eq_some'.mp ho
    rcases Nat.lt_or_eq_of_le hpj with hpj | rfl
    · exact (Passes.of_not_mem (by simp; omega)).append (ih hrest ho' hpj (hcut.mono pc.le_succ))
    · exact Passes.cons_self (by omega) _
  | nop hlt hop hrole _ hrest =>
    simp only [runOps, hlt, hop, hrole, if_true] at ho
    exact ih hrest ho (hne hop (by simp [hrole])) (hcut.mono pc.le_succ)
  | @ifOp _ _ _ _ op hlt hop hrole ht0 ht01 ht1 _ hthen helse hrest =>
    simp only [runOps, hlt, hop, hrole, if_true] at ho
    have hpj := hne hop (by simp [hrole])
    obtain ⟨r1, h1, htr⟩ := Run.andThen_trace ho
    have hbranch : Passes j k r1.trace := by
      split at h1
      · exact ih hthen h1 hpj (hcut.mono pc.le_succ)
      · exact ih.of_cut helse h1 hcut (by omega) (hcut pc op 0 le_rfl hpj hop)
    rcases htr with htr | ⟨s', r2, h2, htr⟩ <;> rw [htr]
    · exact hbranch
    · exact hbranch.append (ih.of_cut hrest h2 hcut (by omega) (hcut pc op 1 le_rfl hpj hop))
  | @loopOp _ _ _ _ op hlt hop hrole hnest ht3 _ hph hrest =>
    simp only [runOps, hlt, hop, hrole, if_true] at ho
    have hpj := hne hop (by simp [hrole])
    obtain ⟨r1, h1, htr | ⟨s', r2, h2, htr⟩⟩ := Run.andThen_trace ho <;> rw [htr]
    · exact ihl hop hnest hph h1 hpj hcut
    · exact (ihl hop hnest hph h1 hpj hcut).append (ih.of_cut hrest h2 hcut
        (by obtain ⟨_, _, _, _⟩ := hnest; omega) (hcut pc op 3 le_rfl hpj hop))
  | loopmodOp hlt hop hrole _ _ _ =>
    simp only [runOps, hlt, hop, hrole, if_true, Option.some.injEq] at ho
    subst ho
    exact Passes.of_not_mem (List.not_mem_nil k)
  | @functioncall _ _ _ _ op hlt hop hrole ht0 hte _ hbody hrest
  | @functioncallNr _ _ _ _ op hlt hop hrole _ ht0 hte _ hbody hrest =>
    simp only [runOps, hlt, hop, hrole, if_true] at ho
    have hpj := hne hop (by simp [hrole])
    obtain ⟨r1, h1, htr | ⟨s', r2, h2, htr⟩⟩ := Run.andThen_trace ho <;>
      obtain ⟨r0, h0, h01⟩ := Run.catchRet_trace h1 <;> rw [htr, h01]
    · exact ih hbody h0 hpj (hcut.mono pc.le_succ)
    · exact (ih hbody h0 hpj (hcut.mono pc.le_succ)).append
        (ih.of_cut hrest h2 hcut (by omega) (hcut pc op 0 le_rfl hpj hop))
  | returnOp hlt hop hrole _ _ _ =>
    simp only [runOps, hlt, hop, hrole, if_true, Option.some.injEq] at ho
    subst ho
    exact Passes.of_not_mem (List.not_mem_nil k)

theorem opsPass (hj : ∀ op, ops[j]? = some op → op.role = .straight) (hjk : j < k) (F : Nat) :
    OpsPass ops args exec test debug j k F ∧ LoopPass ops args exec test debug j k F := by
  induction F with
  | zero =>
    exact ⟨fun _ h => by simp [runOps] at h, fun _ _ _ h => by simp [runLoop] at h⟩
  | succ F ih => exact ⟨opsPass_succ hj hjk ih.1 ih.2, loopPass_succ ih.1 ih.2⟩

/-- A run of a well-nested range from `pc` visits the straight-line op `j` before each visit
to a later op `k`, when no op of `[pc, j)` jumps into `(j, k]`. -/
theorem runOps_passes {l r : Bool} {F pc e : Nat} {s : σ} {o : Run σ}
    (hwn : WellNested ops debug l r pc e) (ho : runOps ops args exec test F pc e s = some o)
    (hj : ∀ op, ops[j]? = some op → op.role = .straight) (hjk : j < k) (hpj : pc ≤ j)
    (hcut : Cut ops pc j k) : Passes j k o.trace :=
  (opsPass hj hjk F).1 hwn ho hpj hcut

end Passing

/-! ### The instance's main code -/

namespace LayerCalls

variable {env : LayerCallEnv} {inst : ShaderInstance}

theorem IsUseparam.role {j : Nat} (h : IsUseparam inst j) :
    ∀ op, inst.instops[j]? = some op → op.role = .straight := fun op hop => by
  obtain ⟨op', hop', hname⟩ := h
  cases hop'.symm.trans hop
  exact Opcode.role_useparam hname

/-- What `m_in_conditional` and `m_bblockids` record of an instance's main code: an op outside
conditionals is in no `if`, loop or inlined function that starts before it, and no jump lands
between two ops of one basic block. -/
structure ArraysAgree (env : LayerCallEnv) (inst : ShaderInstance) : Prop where
  inConditional : ∀ j, InMain inst j → env.inConditional j = false →
    Unenclosed inst.instops inst.maincodebegin j
  bblockids : ∀ j k, InMain inst j → InMain inst k → env.bblockids j = env.bblockids k →
    j < k → NoJumpInto inst.instops j k

/-- The arrays mean on every run of the main code what `PathFacts` says. -/
theorem pathFacts_runOps {σ : Type} {args : List Nat} {exec : Nat → σ → σ}
    {test : Nat → σ → Bool} {debug l r : Bool} {F : Nat} {s : σ} {o : Run σ}
    (harr : ArraysAgree env inst)
    (hwn : WellNested inst.instops debug l r inst.maincodebegin inst.maincodeend)
    (ho : runOps inst.instops args exec test F inst.maincodebegin inst.maincodeend s = some o) :
    PathFacts env inst o.trace where
  unconditional hj _ hu hc hjk :=
    runOps_passes hwn ho hu.role hjk hj.1 ((harr.inConditional _ hj hc).cut _) _
  sameBlock hj hk hu hb hjk :=
    runOps_passes hwn ho hu.role hjk hj.1 ((harr.bblockids _ _ hj hk hb hjk).cut _) _

/-- Lazy layers are called before they are needed, on every run of the emitted code. For a
well-nested main code (every straight-line generator succeeding, and fuel past its length) and
arrays that agree with it, `build_llvm_code` lowers the instance, and on every finished run of
the blocks it emits, each visit to a `useparam` op that needs a layer is preceded, or
accompanied, by a visit to an op whose code calls that layer. -/
theorem emitted_useparam_layer_called (lowerOp : Nat → Bool) (hgen : ∀ n, lowerOp n = true)
    {debug : Bool} {F : Nat} (harr : ArraysAgree env inst)
    (hwn : WellNested inst.instops debug false false inst.maincodebegin inst.maincodeend)
    (hF : inst.maincodeend - inst.maincodebegin < F) :
    ∃ C, buildInstance inst.instops inst.instargs debug lowerOp F inst.maincodebegin
        inst.maincodeend = some (true, C) ∧
      ∀ {σ : Type} (exec : Nat → σ → σ) (test : Nat → σ → Bool) (s : σ) (tr : List Nat) (s' : σ),
        (∃ n, runCfg exec test C n 0 0 s = some (tr, s')) →
        ∀ {p k : Nat} {layer : Int}, tr[p]? = some k → Needs env inst k layer →
          ∃ q ≤ p, ∃ j, tr[q]? = some j ∧ (j, layer) ∈ (genUseparams env inst).emitted := by
  obtain ⟨C, X, q, hC, hem, hfin⟩ :=
    buildInstance_layout inst.instops inst.instargs debug lowerOp hgen hwn hF
  refine ⟨C, hC, fun exec test s tr s' ⟨_, hrun⟩ p k layer hp hneed => ?_⟩
  obtain ⟨n, hn⟩ := runMain_of_runCfg hem hfin hrun
  obtain ⟨o, ho, -, rfl, -⟩ := runMain_eq_some.mp hn
  exact (pathFacts_runOps harr hwn ho).served (served_genUseparams hneed) hp

/-- The main code of `twoReadsLayer` is well nested and the arrays of `straightEnv` agree with
it, since no op of it jumps; so every finished run of its blocks calls the connected layer at
or before each `useparam`. -/
theorem emitted_useparam_layer_called_twoReads :
    ∃ C, buildInstance twoReadsLayer.instops twoReadsLayer.instargs false (fun _ => true) 3
        twoReadsLayer.maincodebegin twoReadsLayer.maincodeend = some (true, C) ∧
      ∀ {σ : Type} (exec : Nat → σ → σ) (test : Nat → σ → Bool) (s : σ) (tr : List Nat) (s' : σ),
        (∃ n, runCfg exec test C n 0 0 s = some (tr, s')) →
        ∀ {p k : Nat} {layer : Int}, tr[p]? = some k → Needs straightEnv twoReadsLayer k layer →
          ∃ q ≤ p, ∃ j, tr[q]? = some j ∧
            (j, layer) ∈ (genUseparams straightEnv twoReadsLayer).emitted := by
  have nojump : ∀ (i : Nat) (op : Opcode), twoReadsLayer.instops[i]? = some op →
      op.jumps = [] := fun i op hop => by
    have := List.getElem?_mem hop
    simp only [twoReadsLayer, List.mem_cons, List.mem_singleton] at this
    rcases this with rfl | rfl | h <;> first | rfl | cases h
  have harr : ArraysAgree straightEnv twoReadsLayer :=
    ⟨fun j _ _ i op _ _ hop => by
      simp only [Opcode.farthestJump, nojump i op hop, List.foldl_nil]
      omega,
    fun j k _ _ _ _ i op t hop => .inl (by simp [Opcode.target, Opcode.jump, nojump i op hop])⟩
  exact emitted_useparam_layer_called (fun _ => true) (fun _ => rfl) harr
    (.straight (by decide) rfl rfl (by decide) <| .straight (by decide) rfl rfl (by decide) <|
      .done le_rfl) (by decide)

end LayerCalls

end OslExec
