import OslExec.LoweringShape

/-!
# Lowered control flow runs as the structured program

`runOps` reads an op stream the structured way: an `if` runs one of its two ranges, a loop
its init range and then its condition, body and step ranges in turn, `break`, `continue`,
`return` and `exit` end the ranges that enclose them up to the innermost loop, inlined
function or the instance. `runCfg` runs the blocks `build_llvm_code` emits. Both count fuel,
the interpreter by nesting depth and the block run by instructions.

The proof is a simulation over `Emitted`, the layout `buildLlvmCode_lowers` establishes.
A run of a range by the interpreter is matched by a run of the emitted code from the range's
position to the block where its outcome resumes (`Sim`), and an interpreter run that is out of
fuel is matched by a block run that is out of fuel too, for an amount of fuel that differs by
at most twice the length of the range (`Stalls`): an op that takes no instruction (a `nop`, the
entry of a loop's init range, the end of a `functioncall_nr`) is one of the range's ops.

## Key results

- `opsSim`: whatever the interpreter does to a laid-out range, the emitted code does from the
  range's position
- `opsStall`: when the interpreter runs out of fuel, so does the emitted code
- `buildInstance_layout`: when every straight-line generator succeeds, a well-nested op stream
  is lowered and laid out from the entry block, and `runMain_of_runCfg`, `runCfg_of_runMain`
  carry a finished run from either side to the other
- `buildInstance_simulates`: so its blocks finish a run with a trace and a store exactly when
  the interpreter does
- `buildInstance_drops_failed_printf`: without that hypothesis the blocks and the interpreter
  part. A `printf` whose legacy generator fails in the then-range of an `if` leaves no code,
  `llvm_gen_if` drops the failure, and the blocks skip the op the interpreter runs
-/

namespace OslExec

/-! ### The structured reading of an op stream -/

/-- How a range of ops ends: normally, or by a `break`, `continue`, `return` or `exit` that
leaves it. -/
inductive Outcome where
  | normal
  | brk
  | cont
  | ret
  | exit
  deriving DecidableEq, Repr

/-- A finished run: how it ended, the straight-line ops it ran in order, the final store. -/
structure Run (σ : Type) where
  outcome : Outcome
  trace : List Nat
  store : σ

namespace Run

variable {σ : Type}

/-- The run after the ops `tr` ran. -/
def prepend (tr : List Nat) (r : Run σ) : Run σ := { r with trace := tr ++ r.trace }

/-- Run `k` on the store a run ends with, if it ended normally. -/
def andThen (x : Option (Run σ)) (k : σ → Option (Run σ)) : Option (Run σ) :=
  x.bind fun r => if r.outcome = .normal then (k r.store).map (prepend r.trace) else some r

/-- An inlined function's body: a `return` ends the body normally. -/
def catchRet (x : Option (Run σ)) : Option (Run σ) :=
  x.map fun r => if r.outcome = .ret then { r with outcome := .normal } else r

@[simp] theorem prepend_outcome (tr : List Nat) (r : Run σ) : (r.prepend tr).outcome = r.outcome :=
  rfl
@[simp] theorem prepend_trace (tr : List Nat) (r : Run σ) : (r.prepend tr).trace = tr ++ r.trace :=
  rfl
@[simp] theorem prepend_store (tr : List Nat) (r : Run σ) : (r.prepend tr).store = r.store := rfl

/-- What `andThen` can end with: the first run, if it did not end normally, or the second one
after it. -/
theorem andThen_eq_some {x : Option (Run σ)} {k : σ → Option (Run σ)} {r : Run σ}
    (h : andThen x k = some r) : ∃ r1, x = some r1 ∧
      (r1.outcome ≠ .normal ∧ r = r1 ∨
        r1.outcome = .normal ∧ ∃ r2, k r1.store = some r2 ∧ r = r2.prepend r1.trace) := by
  obtain ⟨r1, h1, h⟩ := Option.bind_eq_some.mp h
  refine ⟨r1, h1, ?_⟩
  by_cases hn : r1.outcome = .normal
  · rw [if_pos hn] at h
    obtain ⟨r2, h2, rfl⟩ := Option.map_eq_some'.mp h
    exact .inr ⟨hn, r2, h2, rfl⟩
  · rw [if_neg hn] at h
    exact .inl ⟨hn, (Option.some.inj h).symm⟩

/-- `andThen` is out of fuel when the first run is, or when it ended normally and the second
run is. -/
theorem andThen_eq_none {x : Option (Run σ)} {k : σ → Option (Run σ)}
    (h : andThen x k = none) :
    x = none ∨ ∃ r1, x = some r1 ∧ r1.outcome = .normal ∧ k r1.store = none := by
  cases x with
  | none => exact .inl rfl
  | some r1 =>
    by_cases hn : r1.outcome = .normal
    · simp only [andThen, Option.some_bind, if_pos hn, Option.map_eq_none'] at h
      exact .inr ⟨r1, rfl, hn, h⟩
    · simp [andThen, hn] at h

end Run

section Reference

variable {σ : Type} (ops : List Opcode) (args : List Nat) (exec : Nat → σ → σ)
  (test : Nat → σ → Bool)

mutual

/-- The reference interpreter: run the ops `[pc, e)` on store `s`. `exec n` is what the
straight-line op `n` does and `test c` whether symbol `c` is non-zero. An `if` runs
`[pc + 1, jump 0)` when its condition is non-zero and `[jump 0, jump 1)` otherwise, then goes
on at `jump 1`; a loop runs as `runLoop` says and goes on at `jump 3`; an inlined function runs
its body `[pc + 1, jump 0)`, where a `return` ends it, and goes on at `jump 0`. `fuel` bounds
the nesting of calls; `none` when it runs out (or at an `end` op or an op past the stream). -/
def runOps : Nat → Nat → Nat → σ → Option (Run σ)
  | 0, _, _, _ => none
  | fuel + 1, pc, e, s =>
    if pc < e then
      match ops[pc]? with
      | none => none
      | some op =>
        match op.role with
        | .straight => (runOps fuel (pc + 1) e (exec pc s)).map (Run.prepend [pc])
        | .nop => runOps fuel (pc + 1) e s
        | .endOp => none
        | .ifOp =>
          Run.andThen
            (if test (op.argSym args 0) s then runOps fuel (pc + 1) (op.target 0) s
              else runOps fuel (op.target 0) (op.target 1) s)
            (runOps fuel (op.target 1) e)
        | .loopOp => Run.andThen (runLoop fuel op pc .init s) (runOps fuel (op.target 3) e)
        | .loopmodOp => some ⟨if op.opname = "break" then .brk else .cont, [], s⟩
        | .functioncall | .functioncallNr =>
          Run.andThen (Run.catchRet (runOps fuel (pc + 1) (op.target 0) s))
            (runOps fuel (op.target 0) e)
        | .returnOp => some ⟨if op.opname = "exit" then .exit else .ret, [], s⟩
    else some ⟨.normal, [], s⟩

/-- The loop op `op` at `pc` from phase `ph` on: run the phase's range; after a normal end go
on with the next phase (after the condition range, the body if the condition symbol is
non-zero, else leave the loop); a `break` leaves the loop, a `continue` goes to the step
phase. -/
def runLoop : Nat → Opcode → Nat → LoopPhase → σ → Option (Run σ)
  | 0, _, _, _, _ => none
  | fuel + 1, op, pc, ph, s =>
    match runOps fuel (ph.first op pc) (ph.last op) s with
    | none => none
    | some r =>
      match r.outcome with
      | .normal =>
        match ph.next (op.opname = "dowhile") (test (op.argSym args 0) r.store) with
        | some ph' => (runLoop fuel op pc ph' r.store).map (Run.prepend r.trace)
        | none => some ⟨.normal, r.trace, r.store⟩
      | .brk => some ⟨.normal, r.trace, r.store⟩
      | .cont => (runLoop fuel op pc .step r.store).map (Run.prepend r.trace)
      | .ret | .exit => some r

end

/-- An instance's main code `[b, e)`: it finishes when the range ends normally or by an
`exit`. -/
def runMain (fuel b e : Nat) (s : σ) : Option (List Nat × σ) :=
  (runOps ops args exec test fuel b e s).bind fun r =>
    match r.outcome with
    | .normal | .exit => some (r.trace, r.store)
    | _ => none

end Reference

/-! ### Runs of the emitted blocks -/

section Blocks

variable {σ : Type} (exec : Nat → σ → σ) (test : Nat → σ → Bool) (C : Nat → List Instr)

/-- A block run that finishes with some fuel finishes the same way with more. -/
theorem runCfg_add {n b k : Nat} {s : σ} {r : List Nat × σ}
    (h : runCfg exec test C n b k s = some r) (m : Nat) :
    runCfg exec test C (n + m) b k s = some r := by
  induction n generalizing b k s r with
  | zero => simp [runCfg] at h
  | succ n ih =>
    rw [Nat.add_right_comm]
    simp only [runCfg] at h ⊢
    split at h
    · cases h
    · obtain ⟨r', hr', rfl⟩ := Option.map_eq_some'.mp h
      rw [ih hr']
      rfl
    all_goals first | exact ih h | exact h

/-- Block runs are deterministic. -/
theorem runCfg_det {n n' b k : Nat} {s : σ} {r r' : List Nat × σ}
    (h : runCfg exec test C n b k s = some r) (h' : runCfg exec test C n' b k s = some r') :
    r = r' := by
  have h1 := runCfg_add exec test C h n'
  rw [Nat.add_comm, runCfg_add exec test C h' n] at h1
  exact (Option.some.inj h1).symm

/-- From position `p` and store `s` the code runs exactly `k` instructions, the straight-line
ops `tr` among them, and is then at `p'` with store `s'`. -/
def Reaches (p : Nat × Nat) (s : σ) (tr : List Nat) (p' : Nat × Nat) (s' : σ) (k : Nat) :
    Prop :=
  ∀ n, runCfg exec test C (n + k) p.1 p.2 s =
    (runCfg exec test C n p'.1 p'.2 s').map fun r => (tr ++ r.1, r.2)

/-- With less than `b` fuel the code run from `p` on `s` does not finish. -/
def Stalls (p : Nat × Nat) (s : σ) (b : Nat) : Prop :=
  ∀ n < b, runCfg exec test C n p.1 p.2 s = none

variable {exec test C}

theorem Reaches.refl (p : Nat × Nat) (s : σ) : Reaches exec test C p s [] p s 0 := fun n => by
  simp

theorem Reaches.trans {p p' p'' : Nat × Nat} {s s' s'' : σ} {tr tr' : List Nat} {k k' : Nat}
    (h : Reaches exec test C p s tr p' s' k) (h' : Reaches exec test C p' s' tr' p'' s'' k') :
    Reaches exec test C p s (tr ++ tr') p'' s'' (k' + k) := fun n => by
  rw [← Nat.add_assoc, h, h']
  simp [Option.map_map, Function.comp_def]

theorem reaches_lowered {p : Nat × Nat} {i : Nat} (h : instrAt C p = some (.lowered i)) (s : σ) :
    Reaches exec test C p s [i] (p.1, p.2 + 1) (exec i s) 1 := fun n => by
  simp only [instrAt] at h
  simp [runCfg, h]

theorem reaches_br {p : Nat × Nat} {t : Nat} (h : instrAt C p = some (.br t)) (s : σ) :
    Reaches exec test C p s [] (t, 0) s 1 := fun n => by
  simp only [instrAt] at h
  simp [runCfg, h]

theorem reaches_condbr {p : Nat × Nat} {c t f : Nat} (h : instrAt C p = some (.condbr c t f))
    (s : σ) : Reaches exec test C p s [] (if test c s then t else f, 0) s 1 := fun n => by
  simp only [instrAt] at h
  simp [runCfg, h]

/-- The code that ends a loop phase: from the phase's exit instruction to the next phase's
entry, or to the after block when the condition is zero. -/
theorem reaches_loop_exit {lb : LoopBlocks} {p pt : Nat × Nat} {dw : Bool} {c : Nat}
    {ph : LoopPhase} (h : instrAt C pt = some (lb.exitInstr dw c ph)) (s : σ) :
    Reaches exec test C pt s []
      (match ph.next dw (test c s) with
        | some ph' => lb.entry p ph'
        | none => (lb.after, 0)) s 1 := by
  cases ph with
  | init => cases dw <;> simpa [LoopPhase.next, LoopBlocks.entry] using reaches_br h s
  | cond =>
    have : Reaches exec test C pt s [] _ s 1 := reaches_condbr h s
    cases hc : test c s <;> simpa [LoopPhase.next, LoopBlocks.entry, hc] using this
  | body => simpa [LoopPhase.next, LoopBlocks.entry] using reaches_br h s
  | step => simpa [LoopPhase.next, LoopBlocks.entry] using reaches_br h s

theorem Stalls.mono {p : Nat × Nat} {s : σ} {b b' : Nat} (h : Stalls exec test C p s b)
    (hb : b' ≤ b) : Stalls exec test C p s b' := fun n hn => h n (by omega)

/-- A run that takes `k` instructions to reach a position where the code stalls for `b`
stalls for `b + k`. -/
theorem Reaches.stalls {p p' : Nat × Nat} {s s' : σ} {tr : List Nat} {k b : Nat}
    (h : Reaches exec test C p s tr p' s' k) (h' : Stalls exec test C p' s' b) :
    Stalls exec test C p s (b + k) := fun n hn => by
  by_cases hk : k ≤ n
  · obtain ⟨m, rfl⟩ := Nat.exists_eq_add_of_le' hk
    rw [h m, h' m (by omega)]
    rfl
  · cases hr : runCfg exec test C n p.1 p.2 s with
    | none => rfl
    | some r =>
      have := runCfg_add exec test C hr (k - n)
      rw [show n + (k - n) = 0 + k by omega, h 0] at this
      simp [runCfg] at this

end Blocks

/-! ### The simulation -/

/-- Where control goes when a range ends with outcome `o`: after the range (`q`) when it ends
normally, else to the innermost loop's after or step block, the innermost function's return
block, or the instance's exit block. -/
def resume (loops : List (Nat × Nat)) (rets : List Nat) (X : Option Nat) (q : Nat × Nat) :
    Outcome → Nat × Nat
  | .normal => q
  | .brk => ((loops.head?.map Prod.snd).getD 0, 0)
  | .cont => ((loops.head?.map Prod.fst).getD 0, 0)
  | .ret => (rets.headD 0, 0)
  | .exit => (X.getD 0, 0)

theorem resume_of_ne_normal {loops : List (Nat × Nat)} {rets : List Nat} {X : Option Nat}
    {o : Outcome} (h : o ≠ .normal) (q q' : Nat × Nat) :
    resume loops rets X q o = resume loops rets X q' o := by
  cases o <;> simp_all [resume]

/-- The outcomes a range can have where it was lowered: `break` and `continue` inside a loop,
`return` where a return block was pushed for it, `exit` once the exit block exists. -/
def Outcome.Allowed (loops : List (Nat × Nat)) (r : Bool) (X : Option Nat) : Outcome → Prop
  | .normal => True
  | .brk | .cont => loops ≠ []
  | .ret => r = true
  | .exit => X.isSome

/-- An abrupt outcome takes at least the branch that leaves the range. -/
def Outcome.minSteps : Outcome → Nat
  | .normal => 0
  | _ => 1

section Sim

variable {σ : Type} {exec : Nat → σ → σ} {test : Nat → σ → Bool} {C : Nat → List Instr}
  {X : Option Nat}

variable (exec test C X) in
/-- The emitted code simulates the interpreter's result `res` from position `p`: whatever run
`res` holds has an allowed outcome, and the code runs its ops and reaches where that outcome
resumes, with its store. -/
def Sim (loops : List (Nat × Nat)) (rets : List Nat) (r : Bool) (q p : Nat × Nat) (s : σ)
    (res : Option (Run σ)) : Prop :=
  ∀ o, res = some o → o.outcome.Allowed loops r X ∧ ∃ k, o.outcome.minSteps ≤ k ∧
    Reaches exec test C p s o.trace (resume loops rets X q o.outcome) o.store k

variable {loops : List (Nat × Nat)} {rets : List Nat} {r : Bool} {p q : Nat × Nat} {s : σ}

theorem sim_done : Sim exec test C X loops rets r p p s (some ⟨.normal, [], s⟩) := by
  rintro o ⟨⟩
  exact ⟨trivial, 0, le_rfl, Reaches.refl p s⟩

/-- A `break`, `continue`, `return` or `exit`: one branch to where its outcome resumes. -/
theorem sim_abrupt {o : Outcome} (ho : o.Allowed loops r X)
    (h : instrAt C p = some (.br (resume loops rets X q o).1))
    (hne : o ≠ .normal) : Sim exec test C X loops rets r q p s (some ⟨o, [], s⟩) := by
  rintro o' ⟨⟩
  have : Reaches exec test C p s [] _ s 1 := reaches_br h s
  cases o with
  | normal => exact absurd rfl hne
  | _ => exact ⟨ho, 1, le_rfl, by simpa [resume] using this⟩

/-- Code that runs `tr` first, then simulates `x`. -/
theorem Sim.prepend {p' : Nat × Nat} {s' : σ} {tr : List Nat} {k : Nat} {x : Option (Run σ)}
    (h : Reaches exec test C p s tr p' s' k) (hx : Sim exec test C X loops rets r q p' s' x) :
    Sim exec test C X loops rets r q p s (x.map (Run.prepend tr)) := by
  intro o ho
  obtain ⟨o', h', rfl⟩ := Option.map_eq_some'.mp ho
  obtain ⟨ha, k', hk', hr⟩ := hx o' h'
  exact ⟨ha, k' + k, by simp; omega, h.trans hr⟩

/-- Code that takes `k` silent steps first, then simulates `x`. -/
theorem Sim.of_reaches {p' : Nat × Nat} {k : Nat} {x : Option (Run σ)}
    (h : Reaches exec test C p s [] p' s k) (hx : Sim exec test C X loops rets r q p' s x) :
    Sim exec test C X loops rets r q p s x := by
  intro o ho
  obtain ⟨ha, k', hk', hr⟩ := hx o ho
  exact ⟨ha, k' + k, by omega, h.trans hr⟩

/-- Where a range ends normally at `m`, code that takes `j` silent steps from `m` to `m'`. -/
theorem Sim.link {m m' : Nat × Nat} {j : Nat} {x : Option (Run σ)}
    (hx : Sim exec test C X loops rets r m p s x)
    (hl : ∀ s', Reaches exec test C m s' [] m' s' j) :
    Sim exec test C X loops rets r m' p s x := by
  intro o ho
  obtain ⟨ha, k, hk, hr⟩ := hx o ho
  by_cases hn : o.outcome = .normal
  · refine ⟨ha, j + k, by omega, ?_⟩
    rw [hn] at hr ⊢
    simpa using hr.trans (hl o.store)
  · exact ⟨ha, k, hk, by rwa [resume_of_ne_normal hn m' m]⟩

theorem Sim.andThen {m : Nat × Nat} {x : Option (Run σ)} {k : σ → Option (Run σ)}
    (hx : Sim exec test C X loops rets r m p s x)
    (hk : ∀ s', Sim exec test C X loops rets r q m s' (k s')) :
    Sim exec test C X loops rets r q p s (Run.andThen x k) := by
  intro o ho
  obtain ⟨o1, h1, ⟨hn, rfl⟩ | ⟨hn, o2, h2, rfl⟩⟩ := Run.andThen_eq_some ho
  · obtain ⟨ha, k1, hk1, hr⟩ := hx _ h1
    exact ⟨ha, k1, hk1, by rwa [resume_of_ne_normal hn q m]⟩
  · obtain ⟨-, k1, -, hr1⟩ := hx o1 h1
    obtain ⟨ha, k2, hk2, hr2⟩ := hk o1.store o2 h2
    rw [hn] at hr1
    exact ⟨ha, k2 + k1, by simp; omega, hr1.trans hr2⟩

/-- The body of a `functioncall`: a `return` branches to the return block `rb`, where the body
also branches when it ends normally. -/
theorem Sim.catchRet {rb : Nat} {pb : Nat × Nat} {t : Bool} {x : Option (Run σ)}
    (hx : Sim exec test C X loops (rb :: rets) true pb p s x)
    (hb : instrAt C pb = some (.br rb)) :
    Sim exec test C X loops rets t (rb, 0) p s (Run.catchRet x) := by
  intro o ho
  obtain ⟨o1, h1, rfl⟩ := Option.map_eq_some'.mp ho
  obtain ⟨ha, k, hk, hr⟩ := hx o1 h1
  rcases o1 with ⟨_ | _ | _ | _ | _, tr, s1⟩ <;> simp only [reduceCtorEq, ↓reduceIte]
  · exact ⟨trivial, 1 + k, Nat.zero_le _, by simpa [resume] using hr.trans (reaches_br hb s1)⟩
  · exact ⟨ha, k, hk, hr⟩
  · exact ⟨ha, k, hk, hr⟩
  · exact ⟨trivial, k, Nat.zero_le _, by simpa [resume] using hr⟩
  · exact ⟨ha, k, hk, hr⟩

/-- The body of a `functioncall_nr`: no `return` ends it, so catching one changes nothing. -/
theorem Sim.catchRet_nr {x : Option (Run σ)} (hx : Sim exec test C X loops rets false q p s x) :
    Sim exec test C X loops rets r q p s (Run.catchRet x) := by
  intro o ho
  obtain ⟨o1, h1, rfl⟩ := Option.map_eq_some'.mp ho
  obtain ⟨ha, hr⟩ := hx o1 h1
  rcases o1 with ⟨_ | _ | _ | _ | _, tr, s1⟩ <;> simp only [reduceCtorEq, ↓reduceIte]
  · exact ⟨ha, hr⟩
  · exact ⟨ha, hr⟩
  · exact ⟨ha, hr⟩
  · exact absurd ha (by simp [Outcome.Allowed])
  · exact ⟨ha, hr⟩

/-- An interpreter result out of fuel after a simulated first part: the code stalls where the
first part stalls, or where the rest does once the first part ended normally. -/
theorem Sim.stalls_andThen {m : Nat × Nat} {x : Option (Run σ)} {k : σ → Option (Run σ)}
    {b : Nat} (hx : Sim exec test C X loops rets r m p s x) (h : Run.andThen x k = none)
    (hxn : x = none → Stalls exec test C p s b)
    (hkn : ∀ s', k s' = none → Stalls exec test C m s' b) : Stalls exec test C p s b := by
  rcases Run.andThen_eq_none h with hn | ⟨o1, h1, hn, h2⟩
  · exact hxn hn
  · obtain ⟨-, k1, -, hr⟩ := hx o1 h1
    rw [hn] at hr
    exact (hr.stalls (hkn _ h2)).mono (by omega)

end Sim

/-! ### Every laid-out range is simulated -/

section Correct

variable {σ : Type} (ops : List Opcode) (args : List Nat) (exec : Nat → σ → σ)
  (test : Nat → σ → Bool) (C : Nat → List Instr) (X : Option Nat)

/-- The ranges the interpreter runs with `F` fuel are simulated by their emitted code. -/
def OpsSim (F : Nat) : Prop :=
  ∀ {loops rets r pc e p q} (s : σ), Emitted ops args C X loops rets r pc e p q →
    Sim exec test C X loops rets r q p s (runOps ops args exec test F pc e s)

/-- The code of a loop op at `pc`, laid out as `Emitted.loopOp` says: each phase's range, at
its entry, under the loop's blocks, and the branch that ends it. -/
structure LoopEmitted (loops : List (Nat × Nat)) (rets : List Nat) (r : Bool) (pc : Nat)
    (p : Nat × Nat) (op : Opcode) (lb : LoopBlocks) (pe : LoopPhase → Nat × Nat) : Prop where
  nested : op.LoopNested pc
  phase : ∀ ph, Emitted ops args C X ((lb.step, lb.after) :: loops) rets r (ph.first op pc)
    (ph.last op) (lb.entry p ph) (pe ph)
  exit : ∀ ph, instrAt C (pe ph) =
    some (lb.exitInstr (op.opname = "dowhile") (op.argSym args 0) ph)

/-- The loops the interpreter runs with `F` fuel, from any phase, are simulated by their
emitted code up to the after block. -/
def LoopSim (F : Nat) : Prop :=
  ∀ {loops rets r pc p op lb pe} (ph : LoopPhase) (s : σ),
    LoopEmitted ops args C X loops rets r pc p op lb pe →
    Sim exec test C X loops rets r (lb.after, 0) (lb.entry p ph) s
      (runLoop ops args exec test F op pc ph s)

variable {ops args exec test C X}

theorem loopSim_succ {F : Nat} (ih : OpsSim ops args exec test C X F)
    (ihl : LoopSim ops args exec test C X F) : LoopSim ops args exec test C X (F + 1) := by
  intro loops rets r pc p op lb pe ph s hl o ho
  simp only [runLoop] at ho
  cases h1 : runOps ops args exec test F (ph.first op pc) (ph.last op) s with
  | none => simp [h1] at ho
  | some o1 =>
    obtain ⟨ha, k1, hk1, hr1⟩ := ih s (hl.phase ph) o1 h1
    rcases o1 with ⟨_ | _ | _ | _ | _, tr, s1⟩ <;> simp only [h1] at ho
    · -- a normal end: the phase's exit branch, then the next phase or the after block
      have hx := hr1.trans (reaches_loop_exit (p := p) (hl.exit ph) s1)
      split at ho
      · next ph' hph =>
        rw [hph] at hx
        exact (Sim.prepend (by simpa using hx) (ihl ph' s1 hl)) o ho
      · next hph =>
        cases ho
        rw [hph] at hx
        exact ⟨trivial, _, Nat.zero_le _, by simpa using hx⟩
    · cases ho
      exact ⟨trivial, k1, Nat.zero_le _, by simpa [resume] using hr1⟩
    · exact (Sim.prepend (by simpa [resume, LoopBlocks.entry] using hr1) (ihl .step s1 hl)) o ho
    · cases ho
      exact ⟨ha, k1, hk1, by simpa [resume] using hr1⟩
    · cases ho
      exact ⟨ha, k1, hk1, by simpa [resume] using hr1⟩

theorem opsSim_succ {F : Nat} (ih : OpsSim ops args exec test C X F)
    (ihl : LoopSim ops args exec test C X F) : OpsSim ops args exec test C X (F + 1) := by
  intro loops rets r pc e p q s hem
  cases hem with
  | done h =>
    simp only [runOps, show ¬ pc < e by omega, if_false]
    exact sim_done
  | straight hlt hop hrole hi hrest =>
    simp only [runOps, hlt, hop, hrole, if_true]
    exact Sim.prepend (reaches_lowered hi s) (ih _ hrest)
  | nop hlt hop hrole hrest =>
    simp only [runOps, hlt, hop, hrole, if_true]
    exact ih s hrest
  | ifOp hlt hop hrole _ _ _ hc hthen ht helse he hrest =>
    simp only [runOps, hlt, hop, hrole, if_true]
    refine Sim.andThen ?_ fun s' => ih s' hrest
    have hcb : Reaches exec test C p s [] _ s 1 := reaches_condbr hc s
    split
    · next htest =>
      rw [htest] at hcb
      exact ((ih s hthen).link fun s' => reaches_br ht s').of_reaches hcb
    · next htest =>
      rw [Bool.not_eq_true] at htest
      rw [htest] at hcb
      exact ((ih s helse).link fun s' => reaches_br he s').of_reaches hcb
  | loopOp lb pe hlt hop hrole hnest _ hph hex hrest =>
    simp only [runOps, hlt, hop, hrole, if_true]
    exact Sim.andThen (ihl .init s ⟨hnest, hph, hex⟩) fun s' => ih s' hrest
  | loopmodOp hlt hop hrole hhead hi _ =>
    simp only [runOps, hlt, hop, hrole, if_true]
    have hne : loops ≠ [] := by rintro rfl; cases hhead
    split <;> refine sim_abrupt hne ?_ (by simp) <;> simp_all [resume]
  | functioncall hlt hop hrole _ _ hbody hb hrest =>
    simp only [runOps, hlt, hop, hrole, if_true]
    exact Sim.andThen (Sim.catchRet (ih s hbody) hb) fun s' => ih s' hrest
  | functioncallNr hlt hop hrole _ _ hbody hrest =>
    simp only [runOps, hlt, hop, hrole, if_true]
    exact Sim.andThen (Sim.catchRet_nr (ih s hbody)) fun s' => ih s' hrest
  | returnOp hlt hop hrole hne hr hhead hi _ =>
    simp only [runOps, hlt, hop, hrole, if_true, hne, if_false]
    exact sim_abrupt (by simp [Outcome.Allowed, hr]) (by simpa [resume, List.headD_eq_head?,
      hhead] using hi) (by simp)
  | exitOp hlt hop hrole hex hX hi _ =>
    simp only [runOps, hlt, hop, hrole, if_true, hex, if_true]
    exact sim_abrupt (by simp [Outcome.Allowed, hX]) (by simpa [resume, hX] using hi) (by simp)

/-- The simulation, for every amount of fuel. -/
theorem opsSim (F : Nat) : OpsSim ops args exec test C X F ∧ LoopSim ops args exec test C X F := by
  induction F with
  | zero => exact ⟨fun _ _ _ h => by simp [runOps] at h, fun _ _ _ _ h => by simp [runLoop] at h⟩
  | succ F ih => exact ⟨opsSim_succ ih.1 ih.2, loopSim_succ ih.1 ih.2⟩

variable (ops args exec test C X)

/-- A range the interpreter runs out of fuel on with `F` makes the code stall for `F` less
twice the range's length. -/
def OpsStall (F : Nat) : Prop :=
  ∀ {loops rets r pc e p q} (s : σ), Emitted ops args C X loops rets r pc e p q →
    runOps ops args exec test F pc e s = none → Stalls exec test C p s (F - 2 * (e - pc))

/-- The same for a loop from any phase, against the length of the whole loop. -/
def LoopStall (F : Nat) : Prop :=
  ∀ {loops rets r pc p op lb pe} (ph : LoopPhase) (s : σ),
    LoopEmitted ops args C X loops rets r pc p op lb pe →
    runLoop ops args exec test F op pc ph s = none →
      Stalls exec test C (lb.entry p ph) s (F + 1 - 2 * (op.target 3 - pc))

variable {ops args exec test C X}

theorem loopStall_succ {F : Nat} (ih : OpsStall ops args exec test C X F)
    (ihl : LoopStall ops args exec test C X F) : LoopStall ops args exec test C X (F + 1) := by
  intro loops rets r pc p op lb pe ph s hl ho
  obtain ⟨hb1, hb2, hb3⟩ := ph.bounds hl.nested
  simp only [runLoop] at ho
  cases h1 : runOps ops args exec test F (ph.first op pc) (ph.last op) s with
  | none => exact (ih s (hl.phase ph) h1).mono (by omega)
  | some o1 =>
    obtain ⟨-, k1, hk1, hr1⟩ := (opsSim F).1 s (hl.phase ph) o1 h1
    rcases o1 with ⟨_ | _ | _ | _ | _, tr, s1⟩ <;> simp only [h1] at ho
    · have hx := hr1.trans (reaches_loop_exit (p := p) (hl.exit ph) s1)
      split at ho
      · next ph' hph =>
        rw [hph] at hx
        simp only [Option.map_eq_none'] at ho
        exact (hx.stalls (ihl ph' s1 hl ho)).mono (by omega)
      · cases ho
    · cases ho
    · simp only [Option.map_eq_none'] at ho
      have hx : Reaches exec test C (lb.entry p ph) s tr (lb.entry p .step) s1 k1 := by
        simpa [resume, LoopBlocks.entry] using hr1
      exact (hx.stalls (ihl .step s1 hl ho)).mono (by simp [Outcome.minSteps] at hk1; omega)
    all_goals cases ho

theorem opsStall_succ {F : Nat} (ih : OpsStall ops args exec test C X F)
    (ihl : LoopStall ops args exec test C X F) : OpsStall ops args exec test C X (F + 1) := by
  intro loops rets r pc e p q s hem ho
  cases hem with
  | done h => simp [runOps, show ¬ pc < e by omega] at ho
  | straight hlt hop hrole hi hrest =>
    simp only [runOps, hlt, hop, hrole, if_true, Option.map_eq_none'] at ho
    exact ((reaches_lowered hi s).stalls (ih _ hrest ho)).mono (by omega)
  | nop hlt hop hrole hrest =>
    simp only [runOps, hlt, hop, hrole, if_true] at ho
    exact (ih s hrest ho).mono (by omega)
  | ifOp hlt hop hrole ht0 ht01 ht1 hc hthen ht helse he hrest =>
    simp only [runOps, hlt, hop, hrole, if_true] at ho
    have hcb : Reaches exec test C p s [] _ s 1 := reaches_condbr hc s
    split at ho
    · next htest =>
      rw [htest] at hcb
      exact (((opsSim F).1 s hthen).link fun s' => reaches_br ht s').of_reaches hcb
        |>.stalls_andThen ho (fun hn => (hcb.stalls (ih s hthen hn)).mono (by omega))
        fun s' hn => (ih s' hrest hn).mono (by omega)
    · next htest =>
      rw [Bool.not_eq_true] at htest
      rw [htest] at hcb
      exact (((opsSim F).1 s helse).link fun s' => reaches_br he s').of_reaches hcb
        |>.stalls_andThen ho (fun hn => (hcb.stalls (ih s helse hn)).mono (by omega))
        fun s' hn => (ih s' hrest hn).mono (by omega)
  | loopOp lb pe hlt hop hrole hnest ht3 hph hex hrest =>
    simp only [runOps, hlt, hop, hrole, if_true] at ho
    exact ((opsSim F).2 .init s ⟨hnest, hph, hex⟩).stalls_andThen ho
      (fun hn => (ihl .init s ⟨hnest, hph, hex⟩ hn).mono (by omega))
      fun s' hn => (ih s' hrest hn).mono (by obtain ⟨_, _, _, _⟩ := hnest; omega)
  | loopmodOp hlt hop hrole _ _ _ =>
    simp only [runOps, hlt, hop, hrole, if_true] at ho
    split at ho <;> cases ho
  | functioncall hlt hop hrole ht0 hte hbody hb hrest =>
    simp only [runOps, hlt, hop, hrole, if_true] at ho
    exact (Sim.catchRet (t := r) ((opsSim F).1 s hbody) hb).stalls_andThen ho
      (fun hn => (ih s hbody (by simpa [Run.catchRet] using hn)).mono (by omega))
      fun s' hn => (ih s' hrest hn).mono (by omega)
  | functioncallNr hlt hop hrole ht0 hte hbody hrest =>
    simp only [runOps, hlt, hop, hrole, if_true] at ho
    exact (Sim.catchRet_nr (r := r) ((opsSim F).1 s hbody)).stalls_andThen ho
      (fun hn => (ih s hbody (by simpa [Run.catchRet] using hn)).mono (by omega))
      fun s' hn => (ih s' hrest hn).mono (by omega)
  | returnOp hlt hop hrole _ _ _ _ _ =>
    simp only [runOps, hlt, hop, hrole, if_true] at ho
    cases ho
  | exitOp hlt hop hrole _ _ _ _ =>
    simp only [runOps, hlt, hop, hrole, if_true] at ho
    cases ho

/-- The stall bound, for every amount of fuel. -/
theorem opsStall (F : Nat) :
    OpsStall ops args exec test C X F ∧ LoopStall ops args exec test C X F := by
  induction F with
  | zero =>
    refine ⟨fun _ _ _ n hn => absurd hn (by omega), fun _ _ hl _ n hn => absurd hn ?_⟩
    obtain ⟨_, _, _, _⟩ := hl.nested
    omega
  | succ F ih => exact ⟨opsStall_succ ih.1 ih.2, loopStall_succ ih.1 ih.2⟩

end Correct

/-! ### The instance's code -/

section Instance

open CodeGen

variable {σ : Type} {exec : Nat → σ → σ} {test : Nat → σ → Bool} {C : Nat → List Instr}

theorem runCfg_ret {p : Nat × Nat} (h : instrAt C p = some .ret) (n : Nat) (s : σ) :
    runCfg exec test C (n + 1) p.1 p.2 s = some ([], s) := by
  simp only [instrAt] at h
  simp [runCfg, h]

/-- At the top of an instance's main code only a normal end and an `exit` can occur. -/
theorem Outcome.normal_or_exit_of_allowed {X : Option Nat} {o : Outcome}
    (h : o.Allowed [] false X) : o = .normal ∨ o = .exit := by
  cases o <;> simp_all [Outcome.Allowed]

theorem runMain_eq_some {ops : List Opcode} {args : List Nat} {F b e : Nat} {s s' : σ}
    {tr : List Nat} : runMain ops args exec test F b e s = some (tr, s') ↔
      ∃ o, runOps ops args exec test F b e s = some o ∧ (o.outcome = .normal ∨ o.outcome = .exit) ∧
        tr = o.trace ∧ s' = o.store := by
  simp only [runMain, Option.bind_eq_some]
  refine exists_congr fun o => and_congr_right fun _ => ?_
  rcases o with ⟨_ | _ | _ | _ | _, tr', s1⟩ <;> simp [eq_comm]

variable (ops : List Opcode) (args : List Nat) (debug : Bool) (lowerOp : Nat → Bool)

/-- The end of an instance's function: after the main code, a branch to the exit block if an
`exit` created one, and a `ret` there. Code run from where the main code ends normally, or
from the exit block, returns in two instructions. -/
theorem buildInstance_epilogue {F b e : Nat} {g : CodeGen} (hv : g.Valid)
    (hb : buildLlvmCode ops args debug lowerOp F b e none CodeGen.entry = some (true, g)) :
    ∃ C, buildInstance ops args debug lowerOp F b e = some (true, C) ∧ (∀ b, g.code b <+: C b) ∧
      ∀ o : Outcome, o.Allowed [] false g.exitInstanceBlock → ∀ {σ : Type} (exec : Nat → σ → σ)
        (test : Nat → σ → Bool) (s : σ),
        runCfg exec test C 2 (resume [] [] g.exitInstanceBlock g.pos o).1
          (resume [] [] g.exitInstanceBlock g.pos o).2 s = some ([], s) := by
  cases hX : g.exitInstanceBlock with
  | none =>
    refine ⟨(g.emit .ret).code, by simp [buildInstance, hb, hX], (grows_emit g _).code_extends,
      fun o ho σ exec test s => ?_⟩
    obtain rfl | rfl := Outcome.normal_or_exit_of_allowed ho
    · exact runCfg_ret (instrAt_emit (List.prefix_refl _)) 1 s
    · simp [Outcome.Allowed, hX] at ho
  | some x =>
    obtain ⟨hx0, hxi⟩ := hv.exit_code x hX
    let g1 := (g.emit (.br x)).setInsertPoint x
    have hC : ∀ b, g.code b <+: (g1.emit .ret).code b := fun b =>
      ((grows_emit g _).code_extends b).trans ((grows_emit g1 _).code_extends b)
    have hret : instrAt (g1.emit .ret).code (x, 0) = some .ret := by
      have := instrAt_emit (g := g1) (i := .ret) (List.prefix_refl _)
      simpa [g1, pos, hxi, hx0] using this
    refine ⟨(g1.emit .ret).code, by simp [buildInstance, hb, hX, g1], hC,
      fun o ho σ exec test s => ?_⟩
    obtain rfl | rfl := Outcome.normal_or_exit_of_allowed ho
    · have hbr : instrAt (g1.emit .ret).code g.pos = some (.br x) :=
        instrAt_emit (by simp [g1, Ne.symm hxi])
      simp only [instrAt] at hbr
      simp only [resume, runCfg, hbr]
      exact (runCfg_ret hret 0 s : runCfg exec test _ (0 + 1) _ _ s = _)
    · exact runCfg_ret hret 1 s

/-- The layout of a lowered instance. When every straight-line generator succeeds,
`build_llvm_code` lowers a well-nested main code `[b, e)`; its code sits from the entry block
as `Emitted` says, and the epilogue returns from wherever a run of it resumes. -/
theorem buildInstance_layout (hgen : ∀ n, lowerOp n = true) {b e F : Nat}
    (hwn : WellNested ops debug false false b e) (hF : e - b < F) :
    ∃ C X p, buildInstance ops args debug lowerOp F b e = some (true, C) ∧
      Emitted ops args C X [] [] false b e (0, 0) p ∧
      ∀ o : Outcome, o.Allowed [] false X → ∀ {σ : Type} (exec : Nat → σ → σ)
        (test : Nat → σ → Bool) (s : σ),
        runCfg exec test C 2 (resume [] [] X p o).1 (resume [] [] X p o).2 s = some ([], s) := by
  obtain ⟨g, hb, -, hv, hem⟩ := buildLlvmCode_lowers hgen hwn F
    CodeGen.entry hF CodeGen.entry_valid (by simp) (by simp)
  obtain ⟨C, hC, hpre, hfin⟩ := buildInstance_epilogue ops args debug lowerOp hv hb
  exact ⟨C, _, _, hC, hem C g.exitInstanceBlock hpre fun _ h => h, hfin⟩

variable {ops args} {X : Option Nat} {p : Nat × Nat} {b e : Nat}
  (hem : Emitted ops args C X [] [] false b e (0, 0) p)
  (hfin : ∀ o : Outcome, o.Allowed [] false X → ∀ {σ : Type} (exec : Nat → σ → σ)
    (test : Nat → σ → Bool) (s : σ),
    runCfg exec test C 2 (resume [] [] X p o).1 (resume [] [] X p o).2 s = some ([], s))
include hem hfin

/-- A finished run of laid-out code from the entry block is a finished run of the reference
interpreter, with the same trace and final store. -/
theorem runMain_of_runCfg {n : Nat} {s s' : σ} {tr : List Nat}
    (hn : runCfg exec test C n 0 0 s = some (tr, s')) :
    ∃ n, runMain ops args exec test n b e s = some (tr, s') := by
  -- the interpreter, with fuel to spare, does not stall; it ends as the code does
  cases hr : runOps ops args exec test (n + 2 * (e - b) + 1) b e s with
  | none =>
    rw [(opsStall (n + 2 * (e - b) + 1)).1 s hem hr n (by omega)] at hn
    cases hn
  | some o =>
    obtain ⟨ha, k, -, hre⟩ := (opsSim _).1 s hem o hr
    have h1 := hre 2
    rw [hfin o.outcome ha] at h1
    obtain ⟨rfl, rfl⟩ := Prod.mk.inj (runCfg_det exec test C hn (by simpa using h1))
    exact ⟨_, runMain_eq_some.mpr ⟨o, hr, Outcome.normal_or_exit_of_allowed ha, rfl, rfl⟩⟩

/-- A finished run of the reference interpreter is a finished run of the laid-out code. -/
theorem runCfg_of_runMain {n : Nat} {s s' : σ} {tr : List Nat}
    (hn : runMain ops args exec test n b e s = some (tr, s')) :
    ∃ n, runCfg exec test C n 0 0 s = some (tr, s') := by
  obtain ⟨o, hr, -, rfl, rfl⟩ := runMain_eq_some.mp hn
  obtain ⟨ha, k, -, hre⟩ := (opsSim n).1 s hem o hr
  have h1 := hre 2
  rw [hfin o.outcome ha] at h1
  exact ⟨_, by simpa using h1⟩

omit hem hfin

variable (ops args)

/-- Structured control-flow lowering preserves meaning when every straight-line generator
succeeds: `build_llvm_code` lowers a well-nested main code `[b, e)`, and the blocks it emits,
run from the entry block, finish with a trace of straight-line ops and a store exactly when
the reference interpreter does. `WellNested` keeps a `return` out of the body of a
`functioncall_nr`, which pushes no return block of its own. -/
theorem buildInstance_simulates (hgen : ∀ n, lowerOp n = true) {F : Nat}
    (hwn : WellNested ops debug false false b e) (hF : e - b < F) :
    ∃ C, buildInstance ops args debug lowerOp F b e = some (true, C) ∧
      ∀ {σ : Type} (exec : Nat → σ → σ) (test : Nat → σ → Bool) (s : σ) (tr : List Nat) (s' : σ),
        (∃ n, runCfg exec test C n 0 0 s = some (tr, s')) ↔
          ∃ n, runMain ops args exec test n b e s = some (tr, s') := by
  obtain ⟨C, X, p, hC, hem, hfin⟩ := buildInstance_layout ops args debug lowerOp hgen hwn hF
  exact ⟨C, hC, fun exec test s tr s' =>
    ⟨fun ⟨_, hn⟩ => runMain_of_runCfg hem hfin hn, fun ⟨_, hn⟩ => runCfg_of_runMain hem hfin hn⟩⟩

/-- A `for` loop at op `0` whose init range is op `1`, condition range op `2`, body ops `3`
and `4` (a `break`) and step range op `5`. -/
def forBreakOps : List Opcode :=
  [{ opname := "for", jumps := [2, 3, 5, 6] }, { opname := "assign" }, { opname := "lt" },
    { opname := "add" }, { opname := "break" }, { opname := "add" }]

theorem buildInstance_simulates_forBreak :
    WellNested forBreakOps false false false 0 6 ∧
    ∃ C, buildInstance forBreakOps [0] false (fun _ => true) 7 0 6 = some (true, C) ∧
      ∀ {σ : Type} (exec : Nat → σ → σ) (test : Nat → σ → Bool) (s : σ) (tr : List Nat) (s' : σ),
        (∃ n, runCfg exec test C n 0 0 s = some (tr, s')) ↔
          ∃ n, runMain forBreakOps [0] exec test n 0 6 s = some (tr, s') := by
  have hwn : WellNested forBreakOps false false false 0 6 := by
    refine .loopOp (by decide) rfl (by decide) (by decide) (by decide)
      (by decide) (fun ph => ?_) (.done le_rfl)
    cases ph
    · exact .straight (by decide) rfl (by decide) (by decide) (.done le_rfl)
    · exact .straight (by decide) rfl (by decide) (by decide) (.done le_rfl)
    · exact .straight (by decide) rfl (by decide) (by decide)
        (.loopmodOp (by decide) rfl (by decide) (by decide) rfl (.done le_rfl))
    · exact .straight (by decide) rfl (by decide) (by decide) (.done le_rfl)
  exact ⟨hwn, buildInstance_simulates forBreakOps [0] false _ (fun _ => rfl) hwn (by decide)⟩

/-! ### A failure nested in an `if` -/

/-- `ifPrintfOps` is well nested. Its `printf` goes through `llvm_gen_printf_legacy`, which
fails on the non-constant format and emits nothing; `llvm_gen_if` drops that failure, so the
instance is lowered. With the condition non-zero the blocks run no straight-line op, where the
reference interpreter runs the `printf`. -/
theorem buildInstance_drops_failed_printf :
    WellNested ifPrintfOps false false false 0 2 ∧
    ∃ C, buildInstance ifPrintfOps [0, 1] false
        (fun n => n ≠ 1 || (printfLegacyFormatCheck printfFormat).1) 3 0 2 = some (true, C) ∧
      ∀ {σ : Type} (exec : Nat → σ → σ) (s : σ),
        runCfg exec (fun _ _ => true) C 3 0 0 s = some ([], s) ∧
        runMain ifPrintfOps [0, 1] exec (fun _ _ => true) 3 0 2 s = some ([1], exec 1 s) :=
  ⟨.ifOp (by decide) rfl rfl (by decide) (by decide) (by decide) (by decide)
    (.straight (by decide) rfl rfl (by decide) (.done le_rfl)) (.done le_rfl) (.done le_rfl),
    _, rfl, fun _ _ => ⟨rfl, rfl⟩⟩

end Instance

end OslExec
