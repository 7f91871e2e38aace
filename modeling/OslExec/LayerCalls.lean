import OslExec.Instance

/-!
# Lazy layers are called before a connected parameter is read

A `useparam` op stands before the first reads of parameters in a layer's code. For each
parameter it names whose value comes through a connection from a layer that runs lazily,
`llvm_run_connected_layers` emits a call of that layer (`llvm_call_layer`: run the layer unless
it has run already), or decides that the call is not needed. Three records let it leave a call
out:

- `already_run`, the layers this op has handled already;
- `m_layers_already_run`, the layers called by an op of the main code that is in no `if`, loop
  or inlined function (`m_in_conditional`), so on every path past that op;
- `m_call_layers_inserted`, the pairs of a basic block (`m_bblockids`) and a layer called in it.

`PathFacts` says what the two arrays mean on a path of the generated code: an op of the main
code outside conditionals is passed before any later op of the main code, and an op is passed
before a later op of its basic block. `Served` says where a call that serves an op can be, and
`Records` what the two instance-wide records say of the calls emitted so far. From these, on
every path that reaches a `useparam` op, each layer the op needs has been called at that op or
before it.

The generator visits the ops in order. Init ops (outside the main code) neither read nor
change the two instance-wide records, so only the order of the main code's ops matters.

## Key results

- `records_connectedLayer`: one connection keeps what the records say, and serves its layer
- `served_genUseparams`: every layer a `useparam` op needs is served by the emitted calls
- `useparam_layer_called`: on every path, a `useparam` op's layers have been called by the time
  it finishes
-/

namespace OslExec

/-- What `llvm_run_connected_layers` reads besides the instance: whether layer `l` of the group
runs lazily (`group()[l]->run_lazily()`), the arrays `m_in_conditional` and `m_bblockids`
computed for the instance's ops, and the option `m_opt_useparam`. -/
structure LayerCallEnv where
  runLazily : Int → Bool
  inConditional : Nat → Bool
  bblockids : Nat → Nat
  optUseparam : Bool

/-- The records `BackendLLVM` keeps of the layer calls it emitted for an instance
(`m_layers_already_run`; `m_call_layers_inserted`, pairs of a basic block and a layer), and the
calls themselves: `(opnum, layer)` for each `llvm_call_layer(layer)` in the code of op
`opnum`. -/
structure LayerCalls where
  layersAlreadyRun : List Int := []
  callLayersInserted : List (Nat × Int) := []
  emitted : List (Nat × Int) := []
  deriving DecidableEq, Repr

namespace LayerCalls

section Generator

variable (env : LayerCallEnv) (inst : ShaderInstance)

/-- `inmain`: op `opnum` is in the instance's main code, not in the init ops of a parameter. -/
def InMain (opnum : Nat) : Prop := inst.maincodebegin ≤ opnum ∧ opnum < inst.maincodeend

instance (opnum : Nat) : Decidable (InMain inst opnum) := inferInstanceAs (Decidable (_ ∧ _))

/-- `llvm_call_layer(layer)` in the code of op `opnum`. -/
def callLayer (s : LayerCalls) (opnum : Nat) (layer : Int) : LayerCalls :=
  { s with emitted := (opnum, layer) :: s.emitted }

/-- `m_layers_already_run.insert(layer)`, made for an op of the main code outside
conditionals. -/
def markRun (opnum : Nat) (layer : Int) (s : LayerCalls) : LayerCalls :=
  if InMain inst opnum ∧ env.inConditional opnum = false then
    { s with layersAlreadyRun := layer :: s.layersAlreadyRun }
  else s

/-- The body of the loop of `llvm_run_connected_layers` over the instance's connections, for
the parameter `symindex` that op `opnum` reads; `alreadyRun` is the op's `already_run`. -/
def connectedLayer (opnum symindex : Nat) (s : LayerCalls) (alreadyRun : List Int)
    (con : Connection) : LayerCalls × List Int :=
  if con.dst.param ≠ symindex ∨ env.runLazily con.srclayer = false ∨
    con.srclayer ∈ alreadyRun then (s, alreadyRun)
  else
    let alreadyRun := con.srclayer :: alreadyRun
    if InMain inst opnum ∧ con.srclayer ∈ s.layersAlreadyRun then (s, alreadyRun)
    else
      let s := markRun env inst opnum con.srclayer s
      if env.optUseparam ∧ InMain inst opnum then
        let key := (env.bblockids opnum, con.srclayer)
        if key ∈ s.callLayersInserted then (s, alreadyRun)
        else (callLayer { s with callLayersInserted := key :: s.callLayersInserted } opnum
          con.srclayer, alreadyRun)
      else (callLayer s opnum con.srclayer, alreadyRun)

/-- `llvm_run_connected_layers(sym, symindex, opnum, already_run)`: nothing unless `sym` is
connected, else each connection into it, in order. -/
def llvmRunConnectedLayers (sym : Symbol) (symindex opnum : Nat) (st : LayerCalls × List Int) :
    LayerCalls × List Int :=
  if sym.valuesource = .connectedVal then
    inst.connections.foldl (fun st con => connectedLayer env inst opnum symindex st.1 st.2 con) st
  else st

/-- `llvm_gen_useparam` at op `opnum`: the connected layers of each argument, with one
`already_run` for the whole op. (The lazy initialisation of interpolated parameters that it
also emits calls no layer.) -/
def llvmGenUseparam (opnum : Nat) (op : Opcode) (s : LayerCalls) : LayerCalls :=
  ((List.range op.nargs).foldl (fun st i =>
    let symindex := inst.instargs.getD (op.firstarg + i) 0
    llvmRunConnectedLayers env inst (inst.symbol symindex) symindex opnum st) (s, [])).1

/-- The generator at op `opnum`: only a `useparam` emits layer calls. -/
def genOp (s : LayerCalls) (opnum : Nat) : LayerCalls :=
  match inst.instops[opnum]? with
  | some op => if op.opname = "useparam" then llvmGenUseparam env inst opnum op s else s
  | none => s

/-- The layer calls of the instance's code, its ops visited in order from empty records. -/
def genUseparams : LayerCalls := (List.range inst.instops.length).foldl (genOp env inst) {}

/-- Op `opnum` is a `useparam`. -/
def IsUseparam (opnum : Nat) : Prop :=
  ∃ op, inst.instops[opnum]? = some op ∧ op.opname = "useparam"

/-- Op `opnum`, a `useparam`, reads a parameter whose value comes through a connection from
`layer`, a layer that runs lazily. -/
def Needs (opnum : Nat) (layer : Int) : Prop :=
  ∃ op, inst.instops[opnum]? = some op ∧ op.opname = "useparam" ∧ ∃ i < op.nargs,
    (inst.symbol (inst.instargs.getD (op.firstarg + i) 0)).valuesource = .connectedVal ∧
    ∃ con ∈ inst.connections, con.dst.param = inst.instargs.getD (op.firstarg + i) 0 ∧
      env.runLazily con.srclayer = true ∧ con.srclayer = layer

/-- Among the calls `e`, `layer` is called at op `j`, or at an earlier `useparam` of the main
code in `j`'s basic block. -/
def CalledInBlock (e : List (Nat × Int)) (j : Nat) (layer : Int) : Prop :=
  ∃ i ≤ j, InMain inst i ∧ IsUseparam inst i ∧ env.bblockids i = env.bblockids j ∧
    (i, layer) ∈ e

/-- The calls `e` serve op `k` with `layer`: there is a call at `k`, or `k` is in the main code
and there is a call in its basic block, or in the basic block of an earlier `useparam` of the
main code outside conditionals. -/
def Served (e : List (Nat × Int)) (k : Nat) (layer : Int) : Prop :=
  (k, layer) ∈ e ∨ InMain inst k ∧ (CalledInBlock env inst e k layer ∨
    ∃ j < k, InMain inst j ∧ IsUseparam inst j ∧ env.inConditional j = false ∧
      CalledInBlock env inst e j layer)

/-- What the two instance-wide records say once the ops before `k` are generated: a layer in
`m_layers_already_run` was called in the basic block of an earlier `useparam` of the main code
outside conditionals, and a pair in `m_call_layers_inserted` was called in that block. -/
structure Records (k : Nat) (s : LayerCalls) : Prop where
  layersAlreadyRun : ∀ l ∈ s.layersAlreadyRun, ∃ j < k, InMain inst j ∧
    IsUseparam inst j ∧ env.inConditional j = false ∧ CalledInBlock env inst s.emitted j l
  callLayersInserted : ∀ (b : Nat) (l : Int), (b, l) ∈ s.callLayersInserted →
    ∃ j < k, InMain inst j ∧ IsUseparam inst j ∧ env.bblockids j = b ∧ (j, l) ∈ s.emitted

/-- While op `k` is generated from the records `s₀`: the calls only grow, an entry added to a
record is for a layer in the op's `already_run` and says what `Records` asks of it with
`j = k`, and every layer in `already_run` is served. -/
structure OpRecords (k : Nat) (s₀ s : LayerCalls) (alreadyRun : List Int) : Prop where
  emitted : s₀.emitted ⊆ s.emitted
  layersAlreadyRun : ∀ l ∈ s.layersAlreadyRun, l ∈ s₀.layersAlreadyRun ∨
    l ∈ alreadyRun ∧ InMain inst k ∧ env.inConditional k = false ∧
      CalledInBlock env inst s.emitted k l
  callLayersInserted : ∀ (b : Nat) (l : Int), (b, l) ∈ s.callLayersInserted →
    (b, l) ∈ s₀.callLayersInserted ∨
      l ∈ alreadyRun ∧ InMain inst k ∧ b = env.bblockids k ∧ (k, l) ∈ s.emitted
  served : ∀ l ∈ alreadyRun, Served env inst s.emitted k l

/-- What `m_in_conditional` and `m_bblockids` mean, read on a path of the generated code (the
ops it passes, in order): a `useparam` of the main code outside conditionals is passed before
any later op of the main code is reached, and a `useparam` of the main code is passed before a
later op of its basic block is reached. -/
structure PathFacts (path : List Nat) : Prop where
  unconditional : ∀ {j k p : Nat}, InMain inst j → InMain inst k → IsUseparam inst j →
    env.inConditional j = false → j < k → path[p]? = some k → ∃ q < p, path[q]? = some j
  sameBlock : ∀ {j k p : Nat}, InMain inst j → InMain inst k → IsUseparam inst j →
    env.bblockids j = env.bblockids k → j < k → path[p]? = some k →
    ∃ q < p, path[q]? = some j

end Generator

section Proofs

variable {env : LayerCallEnv} {inst : ShaderInstance}

@[simp] theorem callLayer_emitted (s : LayerCalls) (opnum : Nat) (layer : Int) :
    (callLayer s opnum layer).emitted = (opnum, layer) :: s.emitted := rfl
@[simp] theorem callLayer_layersAlreadyRun (s : LayerCalls) (opnum : Nat) (layer : Int) :
    (callLayer s opnum layer).layersAlreadyRun = s.layersAlreadyRun := rfl
@[simp] theorem callLayer_callLayersInserted (s : LayerCalls) (opnum : Nat) (layer : Int) :
    (callLayer s opnum layer).callLayersInserted = s.callLayersInserted := rfl

@[simp] theorem markRun_emitted (opnum : Nat) (layer : Int) (s : LayerCalls) :
    (markRun env inst opnum layer s).emitted = s.emitted := by
  unfold markRun; split <;> rfl
@[simp] theorem markRun_callLayersInserted (opnum : Nat) (layer : Int) (s : LayerCalls) :
    (markRun env inst opnum layer s).callLayersInserted = s.callLayersInserted := by
  unfold markRun; split <;> rfl

/-- `markRun` adds its layer only for an op of the main code outside conditionals. -/
theorem mem_markRun {opnum : Nat} {layer l : Int} {s : LayerCalls}
    (h : l ∈ (markRun env inst opnum layer s).layersAlreadyRun) :
    l ∈ s.layersAlreadyRun ∨ l = layer ∧ InMain inst opnum ∧ env.inConditional opnum = false := by
  unfold markRun at h
  split at h
  · next hc => exact (List.mem_cons.mp h).symm.imp_right fun hl => ⟨hl, hc⟩
  · exact .inl h

theorem CalledInBlock.mono {e e' : List (Nat × Int)} (he : e ⊆ e') {j : Nat} {l : Int} :
    CalledInBlock env inst e j l → CalledInBlock env inst e' j l
  | ⟨i, hi, hm, hu, hb, hc⟩ => ⟨i, hi, hm, hu, hb, he hc⟩

theorem Served.mono {e e' : List (Nat × Int)} (he : e ⊆ e') {k : Nat} {l : Int} :
    Served env inst e k l → Served env inst e' k l
  | .inl hc => .inl (he hc)
  | .inr ⟨hk, .inl hc⟩ => .inr ⟨hk, .inl (hc.mono he)⟩
  | .inr ⟨hk, .inr ⟨j, hj, hm, hu, hcond, hc⟩⟩ => .inr ⟨hk, .inr ⟨j, hj, hm, hu, hcond, hc.mono he⟩⟩

/-- A call at a `useparam` of the main code is a call in its basic block. -/
theorem calledInBlock_self {e : List (Nat × Int)} {k : Nat} {l : Int} (hm : InMain inst k)
    (hu : IsUseparam inst k) (hc : (k, l) ∈ e) : CalledInBlock env inst e k l :=
  ⟨k, le_rfl, hm, hu, rfl, hc⟩

/-- An op's records start as the records before it. -/
theorem OpRecords.start (k : Nat) (s₀ : LayerCalls) : OpRecords env inst k s₀ s₀ [] :=
  ⟨List.Subset.refl _, fun _ h => .inl h, fun _ _ h => .inl h, by simp⟩

/-- The records of op `k` after a step that only grows the calls and `already_run`, adds entries
that say what they must, and serves each new layer of `already_run`. -/
theorem OpRecords.extend {k : Nat} {s₀ s s' : LayerCalls} {A A' : List Int}
    (h : OpRecords env inst k s₀ s A) (he : s.emitted ⊆ s'.emitted) (hA : A ⊆ A')
    (hrun : ∀ l ∈ s'.layersAlreadyRun, l ∈ s.layersAlreadyRun ∨ l ∈ A' ∧ InMain inst k ∧
      env.inConditional k = false ∧ CalledInBlock env inst s'.emitted k l)
    (hins : ∀ (b : Nat) (l : Int), (b, l) ∈ s'.callLayersInserted →
      (b, l) ∈ s.callLayersInserted ∨ l ∈ A' ∧ InMain inst k ∧ b = env.bblockids k ∧
        (k, l) ∈ s'.emitted)
    (hserved : ∀ l ∈ A', l ∈ A ∨ Served env inst s'.emitted k l) :
    OpRecords env inst k s₀ s' A' where
  emitted := List.Subset.trans h.emitted he
  layersAlreadyRun l hl := (hrun l hl).elim
    (fun hl => (h.layersAlreadyRun l hl).imp_right fun ⟨ha, hm, hc, hb⟩ =>
      ⟨hA ha, hm, hc, hb.mono he⟩) .inr
  callLayersInserted b l hl := (hins b l hl).elim
    (fun hl => (h.callLayersInserted b l hl).imp_right fun ⟨ha, hm, hb, hc⟩ =>
      ⟨hA ha, hm, hb, he hc⟩) .inr
  served l hl := (hserved l hl).elim (fun ha => (h.served l ha).mono he) id

/-- The entry `markRun` adds says what `OpRecords` asks of it, given a call of the layer in
the op's basic block. -/
theorem markRun_entries {k : Nat} {l₀ : Int} {s : LayerCalls} {A : List Int}
    {e : List (Nat × Int)} (hc : InMain inst k → CalledInBlock env inst e k l₀) :
    ∀ l ∈ (markRun env inst k l₀ s).layersAlreadyRun, l ∈ s.layersAlreadyRun ∨
      l ∈ l₀ :: A ∧ InMain inst k ∧ env.inConditional k = false ∧ CalledInBlock env inst e k l :=
  fun _ hl => (mem_markRun hl).imp_right fun ⟨hl, hm, hcond⟩ =>
    ⟨hl ▸ List.mem_cons_self _ _, hm, hcond, hl ▸ hc hm⟩

/-- A layer added to `already_run` is served when the new calls serve it. -/
theorem served_cons {e : List (Nat × Int)} {k : Nat} {l₀ : Int} {A : List Int}
    (h : Served env inst e k l₀) : ∀ l ∈ l₀ :: A, l ∈ A ∨ Served env inst e k l :=
  fun _ hl => (List.mem_cons.mp hl).elim (fun hl => .inr (hl ▸ h)) .inl

/-- One connection, read for the parameter `symindex` of the `useparam` op `k`, keeps what the
records say; afterwards its layer is in `already_run` when the connection is into that
parameter and from a layer that runs lazily. -/
theorem records_connectedLayer {k : Nat} {s₀ s : LayerCalls} {A : List Int}
    (h₀ : Records env inst k s₀) (hk : IsUseparam inst k) (h : OpRecords env inst k s₀ s A)
    (symindex : Nat) (con : Connection) :
    let r := connectedLayer env inst k symindex s A con
    OpRecords env inst k s₀ r.1 r.2 ∧ A ⊆ r.2 ∧
      (con.dst.param = symindex → env.runLazily con.srclayer = true → con.srclayer ∈ r.2) := by
  dsimp only [connectedLayer]
  split_ifs with hskip hrun hopt hkey <;> dsimp only
  · -- not this parameter's, not lazy, or handled already by this op
    refine ⟨h, List.Subset.refl _, fun hd hl => ?_⟩
    simpa [hd, hl] using hskip
  all_goals
    simp only [not_or, ne_eq, Bool.not_eq_false, not_not] at hskip
    refine ⟨?_, List.subset_cons_self _ _, fun _ _ => List.mem_cons_self _ _⟩
  · -- called already, in the basic block of an earlier op outside conditionals
    refine h.extend (List.Subset.refl _) (List.subset_cons_self _ _) (fun l hl => .inl hl)
      (fun b l hl => .inl hl) (served_cons (.inr ⟨hrun.1, .inr ?_⟩))
    rcases h.layersAlreadyRun _ hrun.2 with h0 | ⟨ha, -⟩
    · obtain ⟨j, hj, hm, hu, hc, hb⟩ := h₀.layersAlreadyRun _ h0
      exact ⟨j, hj, hm, hu, hc, hb.mono h.emitted⟩
    · exact absurd ha hskip.2.2
  · -- called already in this op's basic block, by an earlier op
    rw [markRun_callLayersInserted] at hkey
    have hc : CalledInBlock env inst (markRun env inst k con.srclayer s).emitted k
        con.srclayer := by
      rw [markRun_emitted]
      rcases h.callLayersInserted _ _ hkey with h0 | ⟨ha, -⟩
      · obtain ⟨j, hj, hm, hu, hb, he⟩ := h₀.callLayersInserted _ _ h0
        exact ⟨j, hj.le, hm, hu, hb, h.emitted he⟩
      · exact absurd ha hskip.2.2
    exact h.extend (by rw [markRun_emitted]; exact List.Subset.refl _)
      (List.subset_cons_self _ _) (markRun_entries fun _ => hc)
      (fun b l hl => .inl (by rwa [markRun_callLayersInserted] at hl))
      (served_cons (.inr ⟨hopt.2, .inl hc⟩))
  · -- a new call, recorded for this op's basic block
    have hc : (k, con.srclayer) ∈ (callLayer { markRun env inst k con.srclayer s with
        callLayersInserted := (env.bblockids k, con.srclayer) ::
          (markRun env inst k con.srclayer s).callLayersInserted } k con.srclayer).emitted :=
      List.mem_cons_self _ _
    refine h.extend (by simp [List.subset_cons_self]) (List.subset_cons_self _ _)
      (markRun_entries fun hm => calledInBlock_self hm hk hc) (fun b l hl => ?_)
      (served_cons (.inl hc))
    rcases List.mem_cons.mp hl with he | hl
    · obtain ⟨rfl, rfl⟩ := Prod.mk.inj he
      exact .inr ⟨List.mem_cons_self _ _, hopt.2, rfl, hc⟩
    · exact .inl (by rwa [markRun_callLayersInserted] at hl)
  · -- a new call, with no record of basic blocks
    have hc : (k, con.srclayer) ∈ (callLayer (markRun env inst k con.srclayer s) k
        con.srclayer).emitted := List.mem_cons_self _ _
    exact h.extend (by simp [List.subset_cons_self]) (List.subset_cons_self _ _)
      (markRun_entries fun hm => calledInBlock_self hm hk hc)
      (fun b l hl => .inl (by simpa using hl)) (served_cons (.inl hc))

/-- The loop over the connections keeps what the records say, and puts the layer of each
connection into the parameter from a lazily run layer in `already_run`. -/
theorem records_foldl_connectedLayer {k : Nat} {s₀ : LayerCalls}
    (h₀ : Records env inst k s₀) (hk : IsUseparam inst k) (symindex : Nat) (cons : List Connection)
    {st : LayerCalls × List Int} (h : OpRecords env inst k s₀ st.1 st.2) :
    let r := cons.foldl (fun st con => connectedLayer env inst k symindex st.1 st.2 con) st
    OpRecords env inst k s₀ r.1 r.2 ∧ st.2 ⊆ r.2 ∧ ∀ con ∈ cons, con.dst.param = symindex →
      env.runLazily con.srclayer = true → con.srclayer ∈ r.2 := by
  induction cons generalizing st with
  | nil => exact ⟨h, List.Subset.refl _, by simp⟩
  | cons con cons ih =>
    obtain ⟨h₁, hA₁, hin₁⟩ := records_connectedLayer h₀ hk h symindex con
    obtain ⟨h₂, hA₂, hin₂⟩ := ih h₁
    refine ⟨h₂, List.Subset.trans hA₁ hA₂, fun c hc hd hl => ?_⟩
    rcases List.mem_cons.mp hc with rfl | hc
    · exact hA₂ (hin₁ hd hl)
    · exact hin₂ c hc hd hl

/-- `llvm_run_connected_layers` keeps what the records say, and puts the layer of each
connection into a connected parameter from a lazily run layer in `already_run`. -/
theorem records_llvmRunConnectedLayers {k : Nat} {s₀ : LayerCalls} (h₀ : Records env inst k s₀)
    (hk : IsUseparam inst k) (sym : Symbol) (symindex : Nat) {st : LayerCalls × List Int}
    (h : OpRecords env inst k s₀ st.1 st.2) :
    let r := llvmRunConnectedLayers env inst sym symindex k st
    OpRecords env inst k s₀ r.1 r.2 ∧ st.2 ⊆ r.2 ∧ (sym.valuesource = .connectedVal →
      ∀ con ∈ inst.connections, con.dst.param = symindex → env.runLazily con.srclayer = true →
        con.srclayer ∈ r.2) := by
  unfold llvmRunConnectedLayers
  split
  · obtain ⟨h', hA, hin⟩ := records_foldl_connectedLayer h₀ hk symindex inst.connections h
    exact ⟨h', hA, fun _ => hin⟩
  · next hc => exact ⟨h, List.Subset.refl _, fun h => absurd h hc⟩

/-- The loop of `llvm_gen_useparam` over the arguments `is` keeps what the records say, and puts
in `already_run` every layer that a connected argument among them needs. -/
theorem records_foldl_useparam {k : Nat} {s₀ : LayerCalls}
    (h₀ : Records env inst k s₀) (hk : IsUseparam inst k) (op : Opcode) (is : List Nat)
    (st : LayerCalls × List Int) (h : OpRecords env inst k s₀ st.1 st.2) :
    let r := is.foldl (fun st i =>
      let symindex := inst.instargs.getD (op.firstarg + i) 0
      llvmRunConnectedLayers env inst (inst.symbol symindex) symindex k st) st
    OpRecords env inst k s₀ r.1 r.2 ∧ st.2 ⊆ r.2 ∧ ∀ i ∈ is,
      (inst.symbol (inst.instargs.getD (op.firstarg + i) 0)).valuesource = .connectedVal →
      ∀ con ∈ inst.connections, con.dst.param = inst.instargs.getD (op.firstarg + i) 0 →
        env.runLazily con.srclayer = true → con.srclayer ∈ r.2 := by
  induction is generalizing st with
  | nil => exact ⟨h, List.Subset.refl _, by simp⟩
  | cons i is ih =>
    obtain ⟨h₁, hA₁, hin₁⟩ := records_llvmRunConnectedLayers h₀ hk _ _ h
    obtain ⟨h₂, hA₂, hin₂⟩ := ih _ h₁
    refine ⟨h₂, List.Subset.trans hA₁ hA₂, fun j hj hv con hcon hd hl => ?_⟩
    rcases List.mem_cons.mp hj with rfl | hj
    · exact hA₂ (hin₁ hv con hcon hd hl)
    · exact hin₂ j hj hv con hcon hd hl

/-- What op `k`'s records say once the op is generated: the records for the ops up to `k`. -/
theorem OpRecords.records_succ {k : Nat} {s₀ s : LayerCalls} {A : List Int}
    (h₀ : Records env inst k s₀) (hk : IsUseparam inst k) (h : OpRecords env inst k s₀ s A) :
    Records env inst (k + 1) s where
  layersAlreadyRun l hl := (h.layersAlreadyRun l hl).elim
    (fun h0 => let ⟨j, hj, hm, hu, hc, hb⟩ := h₀.layersAlreadyRun l h0
      ⟨j, Nat.lt_succ_of_lt hj, hm, hu, hc, hb.mono h.emitted⟩)
    fun ⟨_, hm, hc, hb⟩ => ⟨k, Nat.lt_succ_self k, hm, hk, hc, hb⟩
  callLayersInserted b l hl := (h.callLayersInserted b l hl).elim
    (fun h0 => let ⟨j, hj, hm, hu, hb, he⟩ := h₀.callLayersInserted b l h0
      ⟨j, Nat.lt_succ_of_lt hj, hm, hu, hb, h.emitted he⟩)
    fun ⟨_, hm, hb, he⟩ => ⟨k, Nat.lt_succ_self k, hm, hk, hb.symm, he⟩

/-- `Records` for the ops before `k` hold for the ops before any later op. -/
theorem Records.mono {k k' : Nat} {s : LayerCalls} (h : Records env inst k s) (hk : k ≤ k') :
    Records env inst k' s where
  layersAlreadyRun l hl := let ⟨j, hj, rest⟩ := h.layersAlreadyRun l hl; ⟨j, by omega, rest⟩
  callLayersInserted b l hl := let ⟨j, hj, rest⟩ := h.callLayersInserted b l hl; ⟨j, by omega, rest⟩

/-- The generator at op `k` keeps what the records say, only adds calls, and serves every layer
op `k` needs. -/
theorem records_genOp {k : Nat} {s : LayerCalls} (h : Records env inst k s) :
    Records env inst (k + 1) (genOp env inst s k) ∧ s.emitted ⊆ (genOp env inst s k).emitted ∧
      ∀ l, Needs env inst k l → Served env inst (genOp env inst s k).emitted k l := by
  unfold genOp
  split
  · next op hop =>
    split
    · next hname =>
      have hk : IsUseparam inst k := ⟨op, hop, hname⟩
      obtain ⟨h', -, hin⟩ := records_foldl_useparam h hk op (List.range op.nargs) (s, [])
        (OpRecords.start k s)
      refine ⟨h'.records_succ h hk, h'.emitted, fun l ⟨op', hop', _, i, hi, hv, con, hcon, hd,
        hl, hlayer⟩ => ?_⟩
      cases Option.some.inj (hop.symm.trans hop')
      exact h'.served l (hlayer ▸ hin i (List.mem_range.mpr hi) hv con hcon hd hl)
    · next hname =>
      refine ⟨h.mono (Nat.le_succ k), List.Subset.refl _, fun l ⟨op', hop', hname', _⟩ => ?_⟩
      cases Option.some.inj (hop.symm.trans hop')
      exact absurd hname' hname
  · next hop =>
    exact ⟨h.mono (Nat.le_succ k), List.Subset.refl _, fun l ⟨op', hop', _⟩ => by
      simp [hop] at hop'⟩

/-- After the ops before `n` are generated, the records say what they must, and every layer
that one of those ops needs is served. -/
theorem served_foldl_genOp (n : Nat) :
    let s := (List.range n).foldl (genOp env inst) {}
    Records env inst n s ∧ ∀ k < n, ∀ l, Needs env inst k l → Served env inst s.emitted k l := by
  induction n with
  | zero => exact ⟨⟨by simp, by simp⟩, by simp⟩
  | succ n ih =>
    obtain ⟨h, hserved⟩ := ih
    obtain ⟨h', he, hn⟩ := records_genOp h
    rw [List.range_succ, List.foldl_append, List.foldl_cons, List.foldl_nil]
    refine ⟨h', fun k hk l hl => ?_⟩
    rcases Nat.lt_succ_iff_lt_or_eq.mp hk with hk | rfl
    · exact (hserved k hk l hl).mono he
    · exact hn l hl

/-- Every layer a `useparam` op needs is served by the calls of the instance's code. -/
theorem served_genUseparams {k : Nat} {l : Int} (hl : Needs env inst k l) :
    Served env inst (genUseparams env inst).emitted k l := by
  obtain ⟨op, hop, -⟩ := id hl
  exact (served_foldl_genOp inst.instops.length).2 k (List.getElem?_eq_some_iff.mp hop).1 l hl

/-- On a path, a call in the basic block of an op of the main code that the path reaches is
passed at or before it. -/
theorem PathFacts.calledInBlock {path : List Nat} (hf : PathFacts env inst path)
    {e : List (Nat × Int)} {j p : Nat} {l : Int} (hj : InMain inst j)
    (hc : CalledInBlock env inst e j l) (hp : path[p]? = some j) :
    ∃ q ≤ p, ∃ i, path[q]? = some i ∧ (i, l) ∈ e := by
  obtain ⟨i, hij, hm, hu, hb, he⟩ := hc
  rcases Nat.lt_or_eq_of_le hij with hlt | rfl
  · obtain ⟨q, hq, hqi⟩ := hf.sameBlock hm hj hu hb hlt hp
    exact ⟨q, hq.le, i, hqi, he⟩
  · exact ⟨p, le_rfl, i, hp, he⟩

/-- On a path, a call that serves an op the path reaches is passed at or before it. -/
theorem PathFacts.served {path : List Nat} (hf : PathFacts env inst path)
    {e : List (Nat × Int)} {k p : Nat} {l : Int} (hs : Served env inst e k l)
    (hp : path[p]? = some k) : ∃ q ≤ p, ∃ j, path[q]? = some j ∧ (j, l) ∈ e := by
  rcases hs with he | ⟨hk, hc | ⟨j, hjk, hj, hu, hcond, hc⟩⟩
  · exact ⟨p, le_rfl, k, hp, he⟩
  · exact hf.calledInBlock hk hc hp
  · obtain ⟨q, hq, hqj⟩ := hf.unconditional hj hk hu hcond hjk hp
    obtain ⟨q', hq', i, hi, he⟩ := hf.calledInBlock hj hc hqj
    exact ⟨q', hq'.trans hq.le, i, hi, he⟩

end Proofs

/-- On every path of an instance's code, a `useparam` op that reads a parameter connected from
a lazily run layer finds that layer called by the time it finishes: the path has passed a call
of it, at the op or before. None of the three records leaves out the only call on a path. -/
theorem useparam_layer_called (env : LayerCallEnv) (inst : ShaderInstance) (path : List Nat)
    (hpath : PathFacts env inst path) {p k : Nat} {layer : Int} (hk : path[p]? = some k)
    (hneed : Needs env inst k layer) :
    ∃ q ≤ p, ∃ j, path[q]? = some j ∧ (j, layer) ∈ (genUseparams env inst).emitted :=
  hpath.served (served_genUseparams hneed) hk

/-- Every layer runs lazily; no op is in a conditional, and all are in one basic block. -/
def straightEnv : LayerCallEnv where
  runLazily _ := true
  inConditional _ := false
  bblockids _ := 0
  optUseparam := true

/-- A layer whose main code is two `useparam` ops of its parameter `Cin`, which is connected
from layer `0`. -/
def twoReadsLayer : ShaderInstance where
  master := { shadername := "reader", symbols := [], firstparam := 0, lastparam := 1 }
  layername := "reader"
  instsymbols := [{ name := "Cin", typespec := { simpletype := TypeDesc.TypeFloat },
                    symtype := .param, valuesource := .connectedVal }]
  instops := [{ opname := "useparam", nargs := 1 }, { opname := "useparam", nargs := 1 }]
  instargs := [0]
  connections := [{ srclayer := 0,
                    src := { param := 0, type := { simpletype := TypeDesc.TypeFloat } },
                    dst := { param := 0, type := { simpletype := TypeDesc.TypeFloat } } }]
  firstparam := 0
  lastparam := 1
  maincodebegin := 0
  maincodeend := 2
  Psym := -1
  Nsym := -1

/-- The path through both ops: the second op's call is left out, and the first op's call has
run the layer when the second op finishes. -/
theorem useparam_layer_called_twice :
    ∃ q ≤ 1, ∃ j, [0, 1][q]? = some j ∧
      (j, (0 : Int)) ∈ (genUseparams straightEnv twoReadsLayer).emitted :=
  useparam_layer_called straightEnv twoReadsLayer [0, 1]
    (have first : ∀ {j k p : Nat}, j < k → [0, 1][p]? = some k → ∃ q < p, [0, 1][q]? = some j := by
      intro j k p hjk hp
      rcases p with _ | _ | p
      · simp only [List.getElem?_cons_zero, Option.some.injEq] at hp
        omega
      · simp only [List.getElem?_cons_succ, List.getElem?_cons_zero, Option.some.injEq] at hp
        exact ⟨0, Nat.zero_lt_one, by rw [show j = 0 by omega]; rfl⟩
      · simp at hp
     ⟨fun _ _ _ _ => first, fun _ _ _ _ => first⟩)
    (p := 1) rfl ⟨_, rfl, rfl, 0, Nat.one_pos, rfl, _, List.mem_singleton_self _, rfl, rfl, rfl⟩

/-- Only the first op calls the layer. -/
example : (genUseparams straightEnv twoReadsLayer).emitted = [(0, 0)] := by decide

end LayerCalls

end OslExec
