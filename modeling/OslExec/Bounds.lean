import OslExec.Arith

/-!
# Indices and counts the generated code hands to storage and to the renderer

Two families of generators address arrays with values known only when the shader runs.

`llvm_gen_compref`, `llvm_gen_compassign`, `llvm_gen_mxcompref`, `llvm_gen_mxcompassign`,
`llvm_gen_aref` and `llvm_gen_aassign` read or write one component or element of a symbol. When
the master asks for range checking, an index operand that is not a constant known to be in range
goes through `osl_range_check`; a constant component index of a triple, and a constant row and
column of a matrix, are clamped. The model gives, for each of them, the index it addresses the
symbol's storage with, from the constness of the index operands, their values when the code runs
(`v`), and the runtime's `osl_range_check` (`rc`), which is outside the repository's files.
`OslExec.Arith` models `compref` and `aref` with `rc` the clamp `rangeCheck`.

`llvm_gen_pointcloud_search` passes `osl_pointcloud_search` a number of points to find and the
arrays to fill: the index array (an `alloca` of `capacity` ints when none is given), the
distance array and the arrays of the other attributes. `capacity` is the least element count of
the attribute arrays, and the number of points is clamped to it, at compile time for a constant
and by a `select` otherwise. `llvm_gen_pointcloud_get` clamps its count to the lengths of its
index and data arrays the same way.

## Key results

- `indexed_access_in_bounds`: with range checking, every component, row, column and element
  index the six generators use lies inside the symbol it addresses
- `pointcloud_counts_fit`: the number of points asked for is at most the element count of every
  array the lookup fills
-/

namespace OslExec

/-! ### Component and element indices -/

section Indices

variable (tab : Nat → Symbol) (rc : ℤ → ℤ → ℤ) (rangeChecking : Bool) (v : Nat → ℤ)

/-- An index operand `x` checked against `len` as the six generators check it: with range
checking, unless it is a constant in `[0, len)`, the index is what `osl_range_check` returns. -/
def checkedIndex (x : Nat) (len : ℤ) : ℤ :=
  if rangeChecking && !((tab x).isConstant && 0 ≤ v x && v x < len) then rc (v x) len else v x

/-- The component of a triple that `compref` and `compassign` address through `Index`: a
constant is clamped to `[0, 2]`, whatever the range check returned; a computed index is the
checked one. -/
def componentIndex (Index : Nat) : ℤ :=
  if (tab Index).isConstant then max 0 (min (v Index) 2)
  else checkedIndex tab rc rangeChecking v Index 3

/-- `llvm_gen_compref`: `Result = Val[Index]`. -/
def llvmGenComprefIndex (op : Opcode) (args : List Nat) : ℤ :=
  componentIndex tab rc rangeChecking v (op.argSym args 2)

/-- `llvm_gen_compassign`: `Result[Index] = Val`. -/
def llvmGenCompassignIndex (op : Opcode) (args : List Nat) : ℤ :=
  componentIndex tab rc rangeChecking v (op.argSym args 1)

/-- The row and column of a matrix that `mxcompref` and `mxcompassign` address, the component
being `4 * row + col`. Unless both are constants in range, each of them that is not a constant
in range is range-checked; then two constants are clamped to `[0, 3]` and otherwise the checked
values are used. -/
def matrixIndex (Row Col : Nat) : ℤ × ℤ :=
  let inRange (x : Nat) : Bool := (tab x).isConstant && 0 ≤ v x && v x < 4
  let check := rangeChecking && !((tab Row).isConstant && (tab Col).isConstant &&
    0 ≤ v Row && v Row < 4 && 0 ≤ v Col && v Col < 4)
  let row := if check && !inRange Row then rc (v Row) 4 else v Row
  let col := if check && !inRange Col then rc (v Col) 4 else v Col
  if (tab Row).isConstant && (tab Col).isConstant then
    (max 0 (min (v Row) 3), max 0 (min (v Col) 3))
  else (row, col)

/-- `llvm_gen_mxcompref`: `Result = M[Row][Col]`. -/
def llvmGenMxcomprefIndex (op : Opcode) (args : List Nat) : ℤ × ℤ :=
  matrixIndex tab rc rangeChecking v (op.argSym args 2) (op.argSym args 3)

/-- `llvm_gen_mxcompassign`: `Result[Row][Col] = Val`. -/
def llvmGenMxcompassignIndex (op : Opcode) (args : List Nat) : ℤ × ℤ :=
  matrixIndex tab rc rangeChecking v (op.argSym args 1) (op.argSym args 2)

/-- `llvm_gen_aref`: `Result = Src[Index]`, checked against the length of `Src`. -/
def llvmGenArefIndex (op : Opcode) (args : List Nat) : ℤ :=
  checkedIndex tab rc rangeChecking v (op.argSym args 2) (tab (op.argSym args 1)).typespec.arraylength

/-- `llvm_gen_aassign`: `Result[Index] = Src`, checked against the length of `Result`. -/
def llvmGenAassignIndex (op : Opcode) (args : List Nat) : ℤ :=
  checkedIndex tab rc rangeChecking v (op.argSym args 1) (tab (op.argSym args 0)).typespec.arraylength

variable {tab rc v}

/-- With range checking, a checked index is in `[0, len)` when `osl_range_check` returns a
value there. -/
theorem checkedIndex_mem {x : Nat} {len : ℤ} (hrc : ∀ i, 0 ≤ rc i len ∧ rc i len < len) :
    0 ≤ checkedIndex tab rc true v x len ∧ checkedIndex tab rc true v x len < len := by
  unfold checkedIndex
  split
  · exact hrc _
  · next h =>
    simp at h
    exact ⟨h.1.2, h.2⟩

theorem componentIndex_mem {Index : Nat} (hrc : ∀ i, 0 ≤ rc i 3 ∧ rc i 3 < 3) :
    0 ≤ componentIndex tab rc true v Index ∧ componentIndex tab rc true v Index < 3 := by
  unfold componentIndex
  split
  · omega
  · exact checkedIndex_mem hrc

theorem matrixIndex_mem {Row Col : Nat} (hrc : ∀ i, 0 ≤ rc i 4 ∧ rc i 4 < 4) :
    0 ≤ (matrixIndex tab rc true v Row Col).1 ∧ (matrixIndex tab rc true v Row Col).1 < 4 ∧
      0 ≤ (matrixIndex tab rc true v Row Col).2 ∧ (matrixIndex tab rc true v Row Col).2 < 4 := by
  have h1 := hrc (v Row)
  have h2 := hrc (v Col)
  unfold matrixIndex
  -- a computed operand is checked: both in range only if both are constants
  cases hr : (tab Row).isConstant <;> cases hc : (tab Col).isConstant <;>
    simp only [hr, hc, Bool.true_and, Bool.false_and, Bool.and_false, Bool.not_false,
      Bool.not_true, Bool.and_true, if_true, Bool.false_eq_true, if_false] <;>
    first | omega | (split_ifs <;> simp_all)

end Indices

/-- With range checking on, every index the six indexing generators use addresses their
symbol: a component of a triple in `[0, 3)`, a row and a column of a matrix in `[0, 4)`, an
element of an array in `[0, length)`, for every index operand, constant or not, and every value
it holds, given that `osl_range_check` returns a value in `[0, length)` for the length it is
called with. -/
theorem indexed_access_in_bounds (tab : Nat → Symbol) (rc : ℤ → ℤ → ℤ) (v : Nat → ℤ)
    (op : Opcode) (args : List Nat) (h3 : ∀ i, 0 ≤ rc i 3 ∧ rc i 3 < 3)
    (h4 : ∀ i, 0 ≤ rc i 4 ∧ rc i 4 < 4) :
    (0 ≤ llvmGenComprefIndex tab rc true v op args ∧ llvmGenComprefIndex tab rc true v op args < 3) ∧
    (0 ≤ llvmGenCompassignIndex tab rc true v op args ∧
      llvmGenCompassignIndex tab rc true v op args < 3) ∧
    (0 ≤ (llvmGenMxcomprefIndex tab rc true v op args).1 ∧
      (llvmGenMxcomprefIndex tab rc true v op args).1 < 4 ∧
      0 ≤ (llvmGenMxcomprefIndex tab rc true v op args).2 ∧
      (llvmGenMxcomprefIndex tab rc true v op args).2 < 4) ∧
    (0 ≤ (llvmGenMxcompassignIndex tab rc true v op args).1 ∧
      (llvmGenMxcompassignIndex tab rc true v op args).1 < 4 ∧
      0 ≤ (llvmGenMxcompassignIndex tab rc true v op args).2 ∧
      (llvmGenMxcompassignIndex tab rc true v op args).2 < 4) ∧
    ((∀ i, 0 ≤ rc i (tab (op.argSym args 1)).typespec.arraylength ∧
        rc i (tab (op.argSym args 1)).typespec.arraylength <
          (tab (op.argSym args 1)).typespec.arraylength) →
      0 ≤ llvmGenArefIndex tab rc true v op args ∧
        llvmGenArefIndex tab rc true v op args < (tab (op.argSym args 1)).typespec.arraylength) ∧
    ((∀ i, 0 ≤ rc i (tab (op.argSym args 0)).typespec.arraylength ∧
        rc i (tab (op.argSym args 0)).typespec.arraylength <
          (tab (op.argSym args 0)).typespec.arraylength) →
      0 ≤ llvmGenAassignIndex tab rc true v op args ∧
        llvmGenAassignIndex tab rc true v op args < (tab (op.argSym args 0)).typespec.arraylength) :=
  ⟨componentIndex_mem h3, componentIndex_mem h3, matrixIndex_mem h4, matrixIndex_mem h4,
    checkedIndex_mem, checkedIndex_mem⟩

theorem rangeCheck_mem {len : ℤ} (h : 0 < len) (i : ℤ) :
    0 ≤ rangeCheck i len ∧ rangeCheck i len < len := by
  simp only [rangeCheck]
  omega

/-- With the clamp `rangeCheck` of `OslExec.Arith` as `osl_range_check`, a `compref` whose
index holds `7` at run time reads a component of the triple. -/
theorem indexed_access_in_bounds_rangeCheck :
    0 ≤ llvmGenComprefIndex (fun _ => default) rangeCheck true (fun _ => 7)
        { opname := "compref", nargs := 3 } [0, 1, 2] ∧
      llvmGenComprefIndex (fun _ => default) rangeCheck true (fun _ => 7)
        { opname := "compref", nargs := 3 } [0, 1, 2] < 3 :=
  (indexed_access_in_bounds (fun _ => default) rangeCheck (fun _ => 7)
    { opname := "compref", nargs := 3 } [0, 1, 2] (rangeCheck_mem (by decide))
    (rangeCheck_mem (by decide))).1

/-! ### Point-cloud lookups -/

/-- `TypeSpec::is_int`. -/
def TypeSpec.isInt (t : TypeSpec) : Bool := !t.closure && t.simpletype = TypeDesc.TypeInt

/-- An array a point-cloud lookup fills: an argument symbol, or the `alloca` of `n` ints that
`llvm_gen_pointcloud_search` makes for the indices when no index array is given. -/
inductive PointArray where
  | symbol (x : Nat)
  | buffer (n : ℤ)
  deriving DecidableEq, Repr

/-- The number of elements an array holds. -/
def PointArray.count (tab : Nat → Symbol) : PointArray → ℤ
  | .symbol x => (tab x).typespec.simpletype.numelements
  | .buffer n => n

/-- What the attribute loop of `llvm_gen_pointcloud_search` has gathered: the symbols passed as
the index and distance arrays, the attribute arrays passed to `osl_pointcloud_write_helper`,
and `capacity`, the least element count of the attribute arrays seen (`0x7FFFFFFF` before the
first). -/
structure AttrScan where
  indices : Option Nat := none
  distances : Option Nat := none
  attrs : List Nat := []
  capacity : ℤ := 0x7FFFFFFF
  deriving DecidableEq, Repr

/-- The call `osl_pointcloud_search` receives: the number of points to find and the arrays it
fills. -/
structure PointcloudSearch where
  maxPoints : ℤ
  indices : PointArray
  distances : Option Nat
  attrs : List Nat
  deriving DecidableEq, Repr

/-- The arrays the call fills. -/
def PointcloudSearch.arrays (c : PointcloudSearch) : List PointArray :=
  c.indices :: c.distances.toList.map .symbol ++ c.attrs.map .symbol

section Pointcloud

variable (tab : Nat → Symbol) (names : Nat → String) (v : Nat → ℤ) (useOptix : Bool)

/-- Where the optional attribute pairs begin: after the sort argument, if argument 5 is an
int. -/
def pointcloudAttrOffset (op : Opcode) (args : List Nat) : Nat :=
  if op.nargs > 5 && (tab (op.argSym args 5)).typespec.isInt then 6 else 5

/-- One pass of the attribute loop, pair `i`: a constant name `"index"` with an int array
becomes the index array, `"distance"` with a float array the distance array, and any other pair
is written through `osl_pointcloud_write_helper` (not under OptiX); every pair lowers the
capacity to its array's element count. -/
def scanAttr (op : Opcode) (args : List Nat) (offset : Nat) (st : AttrScan) (i : Nat) :
    AttrScan :=
  let Name := op.argSym args (offset + i * 2)
  let Value := op.argSym args (offset + i * 2 + 1)
  let t := (tab Value).typespec.simpletype
  let st :=
    if (tab Name).isConstant && names Name = "index" && t.elementtype = TypeDesc.TypeInt then
      { st with indices := some Value }
    else if (tab Name).isConstant && names Name = "distance" &&
        t.elementtype = TypeDesc.TypeFloat then
      { st with distances := some Value }
    else if !useOptix then { st with attrs := st.attrs ++ [Value] }
    else st
  { st with capacity := min (t.numelements : ℤ) st.capacity }

/-- `llvm_gen_pointcloud_search`: the attribute loop, then `max_points` clamped to the capacity,
at compile time for a constant (with a warning) and by a `select` otherwise, and a buffer of
`capacity` ints for the indices when no index array was given. -/
def llvmGenPointcloudSearch (op : Opcode) (args : List Nat) : PointcloudSearch :=
  let offset := pointcloudAttrOffset tab op args
  let st := (List.range ((op.nargs - offset) / 2)).foldl
    (scanAttr tab names useOptix op args offset) {}
  let MaxPoints := op.argSym args 4
  { maxPoints :=
      if (tab MaxPoints).isConstant then
        if st.capacity < v MaxPoints then st.capacity else v MaxPoints
      else if st.capacity ≤ v MaxPoints then st.capacity else v MaxPoints
    indices := match st.indices with
      | some x => .symbol x
      | none => .buffer st.capacity
    distances := st.distances
    attrs := st.attrs }

/-- `llvm_gen_pointcloud_get`: the count clamped by a `select` to the smaller of the lengths of
the `Indices` and `Data` arrays. -/
def llvmGenPointcloudGetCount (op : Opcode) (args : List Nat) : ℤ :=
  let elementCount := min (tab (op.argSym args 5)).typespec.arraylength
    (tab (op.argSym args 2)).typespec.arraylength
  if elementCount ≤ v (op.argSym args 3) then elementCount else v (op.argSym args 3)

/-- An array the attribute loop passes on: as the index array, the distance array or an
attribute array. -/
def AttrScan.Records (st : AttrScan) (x : Nat) : Prop :=
  st.indices = some x ∨ st.distances = some x ∨ x ∈ st.attrs

variable {tab names useOptix}

theorem scanAttr_capacity {op : Opcode} {args : List Nat} {offset : Nat} (st : AttrScan)
    (i : Nat) : (scanAttr tab names useOptix op args offset st i).capacity =
      min ((tab (op.argSym args (offset + i * 2 + 1))).typespec.simpletype.numelements : ℤ)
        st.capacity := by
  simp only [scanAttr]
  split_ifs <;> rfl

/-- A pass records the pair's value array, and keeps what was recorded before. -/
theorem records_scanAttr {op : Opcode} {args : List Nat} {offset : Nat} {st : AttrScan}
    {i x : Nat} (h : (scanAttr tab names useOptix op args offset st i).Records x) :
    st.Records x ∨ x = op.argSym args (offset + i * 2 + 1) := by
  simp only [scanAttr, AttrScan.Records] at h ⊢
  split_ifs at h <;> (try simp only [Option.some.injEq, List.mem_append, List.mem_singleton] at h) <;>
    tauto

/-- The capacity fits every array recorded, over the whole loop. -/
theorem fits_foldl_scanAttr {op : Opcode} {args : List Nat} {offset : Nat} (l : List Nat)
    (st : AttrScan) (h : ∀ x, st.Records x → st.capacity ≤ (PointArray.symbol x).count tab) :
    ∀ x, (l.foldl (scanAttr tab names useOptix op args offset) st).Records x →
      (l.foldl (scanAttr tab names useOptix op args offset) st).capacity ≤
        (PointArray.symbol x).count tab := by
  induction l generalizing st with
  | nil => exact h
  | cons i l ih =>
    refine ih _ fun x hx => ?_
    rw [scanAttr_capacity]
    rcases records_scanAttr hx with hx | rfl
    · exact le_trans (min_le_right _ _) (h x hx)
    · exact min_le_left _ _

end Pointcloud

/-- Point-cloud lookups ask for no more points than their arrays hold: the number of points
`llvm_gen_pointcloud_search` passes, for every value `max_points` holds, constant or not, is at
most the element count of the index array or of the buffer made for it, of the distance array
and of every attribute array; the count `llvm_gen_pointcloud_get` passes is at most the lengths
of its index and data arrays. -/
theorem pointcloud_counts_fit (tab : Nat → Symbol) (names : Nat → String) (v : Nat → ℤ)
    (useOptix : Bool) (op : Opcode) (args : List Nat) :
    (∀ a ∈ (llvmGenPointcloudSearch tab names v useOptix op args).arrays,
      (llvmGenPointcloudSearch tab names v useOptix op args).maxPoints ≤ a.count tab) ∧
    llvmGenPointcloudGetCount tab v op args ≤ (tab (op.argSym args 2)).typespec.arraylength ∧
    llvmGenPointcloudGetCount tab v op args ≤ (tab (op.argSym args 5)).typespec.arraylength := by
  refine ⟨fun a ha => ?_, ?_⟩
  · have hfit := @fits_foldl_scanAttr tab names useOptix op args (pointcloudAttrOffset tab op args)
      (List.range ((op.nargs - pointcloudAttrOffset tab op args) / 2)) {}
      fun x h => by simp [AttrScan.Records] at h
    -- the number of points is at most the capacity, which fits every array
    have hmax : (llvmGenPointcloudSearch tab names v useOptix op args).maxPoints ≤
        ((List.range ((op.nargs - pointcloudAttrOffset tab op args) / 2)).foldl
          (scanAttr tab names useOptix op args (pointcloudAttrOffset tab op args)) {}).capacity := by
      simp only [llvmGenPointcloudSearch]
      split_ifs <;> omega
    refine le_trans hmax ?_
    simp only [llvmGenPointcloudSearch, PointcloudSearch.arrays, List.cons_append,
      List.mem_cons, List.mem_append, List.mem_map, Option.mem_toList] at ha
    rcases ha with rfl | ⟨x, hx, rfl⟩ | ⟨x, hx, rfl⟩
    · split
      · next x hx => exact hfit x (.inl hx)
      · exact le_rfl
    · exact hfit x (.inr (.inl hx))
    · exact hfit x (.inr (.inr hx))
  · simp only [llvmGenPointcloudGetCount]
    split_ifs <;> omega

end OslExec
