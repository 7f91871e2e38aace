import OslExec.Symbol

/-!
# The format-string scanner of the printf family

`llvm_gen_printf_legacy` and `llvm_gen_print_fmt` walk the constant format string with the same
loop: a `%%` is a literal percent; any other `%` starts a directive whose inner loop advances to
the first conversion character or to the terminating NUL; `char formatchar = *format++` then
eats that character, and the directive takes the next argument, or the generator fails when
none is left. Everything else is copied a byte at a time. The loop reads `*format` at the top of
every iteration.

`scanFormat` follows the loop over the format's bytes (the terminating NUL is the end of the
list) and reports how it ends: at the terminator, at the argument-count error, or by reading the
byte after the terminator. The last happens when a directive runs into the NUL: the inner loop
stops on it, `*format++` steps past it, and the next test of the outer loop reads beyond the
string.

## Key results

- `scanFormat_eq_overread_iff`: the scan reads past the terminator exactly when it ends inside a
  directive that still has an argument
- `scanFormat_percent_reads_past_nul`: `printf("%", x)` is such a format
- `printfLegacyOptix_numeric_fits`: under OptiX, int and float arguments are packed within the
  argument buffer, which they fill exactly
- `printfLegacyOptix_closure_overflows`: a closure argument makes the packing loop store past the
  buffer, and `printfLegacyOptix_int_string` shows a string after an int does too
-/

namespace OslExec

/-- The conversion characters that end a directive in the scanners' inner loop. -/
def isConversionChar (c : Char) : Bool :=
  c ∈ ['c', 'd', 'e', 'f', 'g', 'i', 'm', 'n', 'o', 'p', 's', 'u', 'v', 'x', 'X']

/-- How the scanning loop ends. -/
inductive ScanEnd where
  /-- the top of the loop read the terminating NUL; `args` arguments were used -/
  | done (args : Nat)
  /-- `"Mismatch between format string and arguments"`: a directive with no argument left, and
  the generator returns `false` -/
  | mismatch
  /-- the top of the loop read the byte after the terminating NUL -/
  | overread
  deriving DecidableEq, Repr

/-- The argument the format string is: `1` for `format` and `fprintf`, `0` otherwise. -/
def formatArg (op : Opcode) : Nat := if op.opname = "format" ∨ op.opname = "fprintf" then 1 else 0

/-- The scanning loop of `llvm_gen_printf_legacy` and `llvm_gen_print_fmt` over the bytes before
the terminating NUL, from argument `arg`, with `nargs` the op's argument count. `inDir` is the
inner directive loop: it advances to a conversion character or the NUL, then
`formatchar = *format++` eats that byte and the directive takes argument `arg`. -/
def scanFormat (nargs : Nat) : List Char → Nat → Bool → ScanEnd
  | [], arg, false => .done arg
  -- the directive reached the NUL: `*format++` eats it, and the loop test reads past it
  | [], arg, true => if nargs ≤ arg then .mismatch else .overread
  | c :: rest, arg, true =>
    if isConversionChar c then
      if nargs ≤ arg then .mismatch else scanFormat nargs rest (arg + 1) false
    else scanFormat nargs rest arg true
  | '%' :: '%' :: rest, arg, false => scanFormat nargs rest arg false
  | '%' :: rest, arg, false => scanFormat nargs rest arg true
  | _ :: rest, arg, false => scanFormat nargs rest arg false

/-- The scan of an op's constant format string `fmt`. -/
def scanOpFormat (op : Opcode) (fmt : List Char) : ScanEnd :=
  scanFormat op.nargs fmt (formatArg op + 1) false

/-- Where the directive machine is after a prefix: inside a directive or not. -/
def endsInDirective : List Char → Bool → Bool
  | [], d => d
  | c :: rest, true => endsInDirective rest !(isConversionChar c)
  | '%' :: '%' :: rest, false => endsInDirective rest false
  | '%' :: rest, false => endsInDirective rest true
  | _ :: rest, false => endsInDirective rest false

/-- The number of directives a prefix completes. -/
def directives : List Char → Bool → Nat
  | [], _ => 0
  | c :: rest, true =>
    if isConversionChar c then directives rest false + 1 else directives rest true
  | '%' :: '%' :: rest, false => directives rest false
  | '%' :: rest, false => directives rest true
  | _ :: rest, false => directives rest false

/-- The scan reads past the terminating NUL exactly when the format ends inside a directive
and every directive, that one included, has an argument. -/
theorem scanFormat_eq_overread_iff (nargs : Nat) (fmt : List Char) (arg : Nat) (d : Bool) :
    scanFormat nargs fmt arg d = .overread ↔
      endsInDirective fmt d = true ∧ arg + directives fmt d < nargs := by
  induction fmt, arg, d using scanFormat.induct nargs with
  | case1 arg =>
    simp only [scanFormat.eq_1, endsInDirective.eq_1, reduceCtorEq, Bool.false_eq_true, false_and]
  | case2 arg =>
    simp only [scanFormat.eq_2, endsInDirective.eq_1, directives.eq_1, true_and, Nat.add_zero]
    split <;> simp only [reduceCtorEq, false_iff, iff_true] <;> omega
  | case3 arg hn =>
    simp only [scanFormat, endsInDirective, directives, hn, if_false, true_and, Nat.add_zero,
      true_iff]
    omega
  | case4 c rest arg hc hn =>
    simp only [scanFormat, endsInDirective, directives, hc, hn, if_true, reduceCtorEq, false_iff]
    omega
  | case5 c rest arg hc hn ih =>
    simp only [scanFormat, endsInDirective, directives, hc, hn, if_true, if_false, ih,
      Bool.not_true]
    constructor <;> rintro ⟨h1, h2⟩ <;> exact ⟨h1, by omega⟩
  | case6 c rest arg hc ih =>
    simpa [scanFormat, endsInDirective, directives, hc] using ih
  | case7 rest arg ih => simpa [scanFormat, endsInDirective, directives] using ih
  | case8 rest arg hne ih =>
    rw [scanFormat.eq_5 nargs arg rest hne, endsInDirective.eq_4 rest hne, directives.eq_4 rest hne]
    exact ih
  | case9 c rest arg h1 h2 ih =>
    rw [scanFormat.eq_6 nargs arg c rest h1 h2, endsInDirective.eq_5 c rest h1 h2,
      directives.eq_5 c rest h1 h2]
    exact ih

/-- `printf("%", x)`: the directive runs into the terminator with `x` still unused, so the scan
reads the byte after it. -/
theorem scanFormat_percent_reads_past_nul :
    scanOpFormat { opname := "printf", nargs := 2 } ['%'] = .overread := by
  decide

/-! ## The OptiX argument buffer of `llvm_gen_printf_legacy`

Under OptiX the pushed values are packed into a stack buffer. The scan sums an `optix_size` for
them as it pushes them; the buffer has `optix_size + 8` bytes, its first eight hold that size,
and a second loop over the pushed values stores each one from offset 8 on, by the LLVM type of
the value. The two loops count differently: the packing loop aligns every 64-bit value, the
scan only the floats, and the scan does not count the string it makes of a closure at all.
-/

/-- `(x + sizeof(double) - 1) & ~(sizeof(double) - 1)`: `x` rounded up to a multiple of eight
(the sizes here stay far below the range of `size_t`). -/
def align8 (x : Nat) : Nat := (x + 7) / 8 * 8

/-- A value the scan pushes onto `call_args`: one component of an argument of base type `b`, or
the string `osl_closure_to_string` makes of one closure element. -/
inductive PrintfValue where
  | component (b : BaseType)
  | closureString
  deriving DecidableEq, Repr

/-- The values the scan pushes for an argument of type `t`: a string for each element of a
closure, otherwise every component of every element. -/
def printfValues (t : TypeSpec) : List PrintfValue :=
  if t.isClosureBased then List.replicate t.simpletype.numelements .closureString
  else List.replicate (t.simpletype.numelements * t.simpletype.aggregate.toNat)
    (.component t.simpletype.basetype)

/-- The LLVM types the packing loop tells apart: 32- and 64-bit integers (`isIntegerTy`),
floating point (`isFloatingPointTy`), and anything else, which it stores as a pointer. -/
inductive ValueType where
  | int32
  | int64
  | floating
  | other
  deriving DecidableEq, Repr

namespace ValueType

/-- One iteration of the packing loop at `optix_size = off`: the offset the value is stored at
and the bytes stored. A floating-point or 64-bit integer value is aligned to eight bytes
first. -/
def slot : ValueType → Nat → Nat × Nat
  | .int32, off => (off, 4)
  | .int64, off => (align8 off, 8)
  | .floating, off => (align8 off, 8)
  | .other, off => (off, 8)

/-- `optix_size` after the iteration: the end of the store. -/
def next (t : ValueType) (off : Nat) : Nat := (t.slot off).1 + (t.slot off).2

theorem le_slot (t : ValueType) (off : Nat) : off ≤ (t.slot off).1 := by
  cases t <;> simp only [slot, align8] <;> omega

end ValueType

namespace PrintfValue

/-- The scan's `optix_size` step for one pushed value: a float goes as an 8-byte-aligned
`double`, an int takes four bytes and a string eight; the string of a closure and a value of
another base type add nothing. -/
def scanStep : PrintfValue → Nat → Nat
  | .component .float, n => align8 n + 8
  | .component .int, n => n + 4
  | .component .string, n => n + 8
  | _, n => n

/-- Modelled from the spec: the LLVM type of a pushed value under OptiX. An int is 32 bits, a
float component has been converted to `double`, a string is its 64-bit `ustringhash`, and so is
the string `osl_closure_to_string` returns; a pointer, or the `void` of an unknown base type, is
neither an integer nor floating point. -/
def valueType : PrintfValue → ValueType
  | .component .int => .int32
  | .component .float => .floating
  | .component .string => .int64
  | .component .ptr | .component .unknown => .other
  | .closureString => .int64

/-- A pushed value that the scan leaves out of `optix_size` although the packing loop stores
eight bytes of it. -/
def uncounted : PrintfValue → Bool
  | .component .int | .component .float | .component .string => false
  | _ => true

/-- The packing loop, started at least `8 * k` bytes past the scan, stays at least that far
ahead after one value, and a whole slot further after a value the scan does not count. -/
theorem scanStep_le_next (v : PrintfValue) {s p k : Nat} (h : s + 8 * k ≤ p) :
    v.scanStep s + 8 * (k + v.uncounted.toNat) ≤ v.valueType.next p := by
  rcases v with ⟨_ | _ | _ | _ | _⟩ | _ <;>
    simp only [scanStep, valueType, uncounted, ValueType.next, ValueType.slot, align8,
      Bool.toNat_true, Bool.toNat_false] <;> omega

/-- On int and float components the two loops agree up to the packing loop's start: it starts
a multiple of eight ahead, so the floats' alignment falls at the same places. -/
theorem next_eq_scanStep {v : PrintfValue} (hv : v = .component .int ∨ v = .component .float)
    (s k : Nat) : v.valueType.next (s + 8 * k) = v.scanStep s + 8 * k := by
  rcases hv with rfl | rfl <;> simp only [scanStep, valueType, ValueType.next, ValueType.slot, align8] <;>
    omega

end PrintfValue

/-- The stores of the packing loop from `optix_size = off`, as (offset, bytes). -/
def packStores : List ValueType → Nat → List (Nat × Nat)
  | [], _ => []
  | t :: ts, off => t.slot off :: packStores ts (t.next off)

/-- `optix_size` at the end of the packing loop. -/
def packEnd (ts : List ValueType) (off : Nat) : Nat := ts.foldl (fun o t => t.next o) off

/-- The scan's `optix_size` over the pushed values, from `s`. -/
def scanSize (vs : List PrintfValue) (s : Nat) : Nat := vs.foldl (fun n v => v.scanStep n) s

/-- The bytes `alloca` reserves for the argument buffer and every store into them, as (offset,
bytes). -/
structure OptixArgBuffer where
  size : Nat
  stores : List (Nat × Nat)
  deriving DecidableEq, Repr

/-- The OptiX path of `llvm_gen_printf_legacy` for the format `fmt` (its bytes before the NUL)
with arguments of types `argType i`. The scan pushes the values of the arguments its directives
consume; with none it pushes a null pointer and counts eight bytes for it. The buffer has
`optix_size + 8` bytes: the size is stored at offset 0, and the packing loop stores the pushed
values from offset 8. `none` when the scan does not finish: a mismatch fails the generator, and a
read past the NUL leaves the rest undefined. -/
def printfLegacyOptix (op : Opcode) (fmt : List Char) (argType : Nat → TypeSpec) :
    Option OptixArgBuffer :=
  match scanOpFormat op fmt with
  | .done arg =>
    let first := formatArg op + 1
    let values := (List.range' first (arg - first)).flatMap fun i => printfValues (argType i)
    let noArgs := arg == first
    let optixSize := scanSize values 0 + if noArgs then 8 else 0
    let types := values.map PrintfValue.valueType ++ if noArgs then [.other] else []
    some { size := optixSize + 8, stores := (0, 8) :: packStores types 8 }
  | _ => none

theorem le_packEnd (ts : List ValueType) (off : Nat) : off ≤ packEnd ts off := by
  induction ts generalizing off with
  | nil => exact le_rfl
  | cons t ts ih =>
    have := ValueType.le_slot t off
    exact le_trans (by simp only [ValueType.next]; omega) (ih (t.next off))

/-- Every store of the packing loop lies between its start and the `optix_size` it ends with. -/
theorem packStores_within (ts : List ValueType) (off : Nat) :
    ∀ st ∈ packStores ts off, off ≤ st.1 ∧ st.1 + st.2 ≤ packEnd ts off := by
  induction ts generalizing off with
  | nil => simp [packStores]
  | cons t ts ih =>
    have hslot := ValueType.le_slot t off
    have hnext : t.next off ≤ packEnd ts (t.next off) := le_packEnd ts _
    simp only [packStores, List.mem_cons, forall_eq_or_imp]
    refine ⟨⟨hslot, hnext⟩, fun st hst => ?_⟩
    have := ih (t.next off) st hst
    simp only [ValueType.next] at this ⊢
    exact ⟨by omega, this.2⟩

/-- The last store of the packing loop ends where the loop ends. -/
theorem packStores_last {ts : List ValueType} (h : ts ≠ []) (off : Nat) :
    ∃ st ∈ packStores ts off, st.1 + st.2 = packEnd ts off := by
  induction ts generalizing off with
  | nil => exact absurd rfl h
  | cons t ts ih =>
    rcases ts with _ | ⟨t', ts⟩
    · exact ⟨t.slot off, by simp [packStores], rfl⟩
    · obtain ⟨st, hst, heq⟩ := ih (List.cons_ne_nil _ _) (t.next off)
      exact ⟨st, List.mem_cons_of_mem _ hst, heq⟩

/-- From a start `8 * k` bytes ahead of the scan, the packing loop ends `8 * k` bytes ahead plus
a slot for every value the scan does not count. -/
theorem scanSize_le_packEnd (vs : List PrintfValue) {s p k : Nat} (h : s + 8 * k ≤ p) :
    scanSize vs s + 8 * (k + vs.countP (·.uncounted)) ≤ packEnd (vs.map (·.valueType)) p := by
  induction vs generalizing s p k with
  | nil => simpa [scanSize, packEnd] using h
  | cons v vs ih =>
    have := ih (v.scanStep_le_next h)
    simp only [scanSize, packEnd, List.foldl_cons, List.map_cons, List.countP_cons] at this ⊢
    cases hu : v.uncounted <;> simp only [hu, Bool.toNat_true, Bool.toNat_false, Bool.false_eq_true,
      if_false, if_true] at this ⊢ <;>
      omega

/-- On int and float components alone the packing loop ends exactly `8 * k` bytes ahead of the
scan when it starts so. -/
theorem packEnd_eq_scanSize {vs : List PrintfValue}
    (hvs : ∀ v ∈ vs, v = .component .int ∨ v = .component .float) (s k : Nat) :
    packEnd (vs.map (·.valueType)) (s + 8 * k) = scanSize vs s + 8 * k := by
  induction vs generalizing s with
  | nil => rfl
  | cons v vs ih =>
    simp only [List.mem_cons, forall_eq_or_imp] at hvs
    simp only [packEnd, scanSize, List.map_cons, List.foldl_cons] at ih ⊢
    rw [PrintfValue.next_eq_scanStep hvs.1, ih hvs.2]

/-- The values the scan pushes for the arguments its directives consumed, `first ≤ i < arg`. -/
def printfArgValues (argType : Nat → TypeSpec) (first arg : Nat) : List PrintfValue :=
  (List.range' first (arg - first)).flatMap fun i => printfValues (argType i)

theorem mem_printfArgValues {argType : Nat → TypeSpec} {first arg : Nat} {v : PrintfValue} :
    v ∈ printfArgValues argType first arg ↔ ∃ i, first ≤ i ∧ i < arg ∧ v ∈ printfValues (argType i) := by
  simp only [printfArgValues, List.mem_flatMap, List.mem_range'_1]
  constructor
  · rintro ⟨i, ⟨h1, h2⟩, hv⟩; exact ⟨i, h1, by omega, hv⟩
  · rintro ⟨i, h1, h2, hv⟩; exact ⟨i, ⟨h1, by omega⟩, hv⟩

/-- Once the scan has consumed the arguments up to `arg`, the generator's buffer. -/
theorem printfLegacyOptix_of_done {op : Opcode} {fmt : List Char} {arg : Nat}
    (hscan : scanOpFormat op fmt = .done arg) (argType : Nat → TypeSpec) :
    printfLegacyOptix op fmt argType = some
      { size := scanSize (printfArgValues argType (formatArg op + 1) arg) 0 +
          (if arg = formatArg op + 1 then 8 else 0) + 8,
        stores := (0, 8) :: packStores
          ((printfArgValues argType (formatArg op + 1) arg).map (·.valueType) ++
            if arg = formatArg op + 1 then [.other] else []) 8 } := by
  simp only [printfLegacyOptix, hscan, printfArgValues, beq_iff_eq]

/-- A closure argument makes the packing loop write past the buffer: for every format and every
argument list in which a directive consumes a closure, some store ends at least eight bytes
beyond the `optix_size + 8` bytes allocated. -/
theorem printfLegacyOptix_closure_overflows (op : Opcode) (fmt : List Char)
    (argType : Nat → TypeSpec) {arg i : Nat} (hscan : scanOpFormat op fmt = .done arg)
    (hi : formatArg op + 1 ≤ i ∧ i < arg) (hc : (argType i).isClosureBased = true) :
    ∃ buf, printfLegacyOptix op fmt argType = some buf ∧
      ∃ st ∈ buf.stores, buf.size + 8 ≤ st.1 + st.2 := by
  have hmem : PrintfValue.closureString ∈ printfArgValues argType (formatArg op + 1) arg :=
    mem_printfArgValues.mpr ⟨i, hi.1, hi.2, by
      simp [printfValues, hc, List.mem_replicate, (argType i).simpletype.numelements_pos.ne']⟩
  have hcount : 0 < (printfArgValues argType (formatArg op + 1) arg).countP (·.uncounted) :=
    List.countP_pos_iff.mpr ⟨_, hmem, rfl⟩
  have hend := scanSize_le_packEnd (printfArgValues argType (formatArg op + 1) arg) (s := 0)
    (p := 8) (k := 1) le_rfl
  obtain ⟨st, hst, hlast⟩ := packStores_last
    (List.map_eq_nil_iff.not.mpr (List.ne_nil_of_mem hmem)) 8
  have hne : arg ≠ formatArg op + 1 := by omega
  refine ⟨_, printfLegacyOptix_of_done hscan argType, st, ?_, ?_⟩
  · simpa [hne] using List.mem_cons_of_mem _ hst
  · simp only [hne, if_false]; omega

/-- A closure colour as `TypeSpec` stores it: its simple type is a pointer. -/
def closureColor : TypeSpec := { simpletype := { basetype := .ptr }, closure := true }

/-- `printf("%s", c)` for a closure `c`: eight bytes are allocated and the closure's string is
stored at bytes 8 to 16. -/
theorem printfLegacyOptix_closure_overflows_printf :
    scanOpFormat { opname := "printf", nargs := 2 } ['%', 's'] = .done 2 ∧
      (1 ≤ 1 ∧ 1 < 2) ∧ closureColor.isClosureBased = true ∧
      ∃ buf, printfLegacyOptix { opname := "printf", nargs := 2 } ['%', 's'] (fun _ => closureColor) =
        some buf ∧ ∃ st ∈ buf.stores, buf.size + 8 ≤ st.1 + st.2 :=
  have hscan : scanOpFormat { opname := "printf", nargs := 2 } ['%', 's'] = .done 2 := by decide
  ⟨hscan, by decide, rfl,
    printfLegacyOptix_closure_overflows _ _ (fun _ => closureColor) hscan (i := 1) (by decide) rfl⟩

/-- On int and float arguments the packing loop fills the buffer exactly: for every format whose
directives consume only int-based and float-based arguments (of any aggregate and array length,
or none at all), every store lies within the `optix_size + 8` bytes allocated. -/
theorem printfLegacyOptix_numeric_fits (op : Opcode) (fmt : List Char) (argType : Nat → TypeSpec)
    {arg : Nat} (hscan : scanOpFormat op fmt = .done arg)
    (hnum : ∀ i, formatArg op + 1 ≤ i → i < arg → (argType i).isClosureBased = false ∧
      ((argType i).simpletype.basetype = .int ∨ (argType i).simpletype.basetype = .float)) :
    ∃ buf, printfLegacyOptix op fmt argType = some buf ∧ ∀ st ∈ buf.stores, st.1 + st.2 ≤ buf.size := by
  refine ⟨_, printfLegacyOptix_of_done hscan argType, ?_⟩
  by_cases h0 : arg = formatArg op + 1
  · -- no argument: only the null pointer is stored, at bytes 8 to 16
    simp [h0, printfArgValues, scanSize, packStores, ValueType.slot, ValueType.next]
  · have hvs : ∀ v ∈ printfArgValues argType (formatArg op + 1) arg,
        v = .component .int ∨ v = .component .float := by
      intro v hv
      obtain ⟨i, h1, h2, hv⟩ := mem_printfArgValues.mp hv
      obtain ⟨hc, hb⟩ := hnum i h1 h2
      simp only [printfValues, hc, List.mem_replicate, Bool.false_eq_true, if_false] at hv
      rw [hv.2]
      rcases hb with hb | hb <;> simp [hb]
    have hend := packEnd_eq_scanSize hvs 0 1
    simp only [h0, if_false, List.append_nil, List.mem_cons, forall_eq_or_imp, Nat.add_zero]
    exact ⟨by omega, fun st hst => (packStores_within _ 8 st hst).2.trans (by simpa using hend.le)⟩

/-- The arguments of `printf(fmt, i, x)`: an int, then floats. -/
def intFloatArgs (i : Nat) : TypeSpec :=
  if i = 1 then { simpletype := TypeDesc.TypeInt } else { simpletype := TypeDesc.TypeFloat }

/-- `printf("%d %f", i, x)`: the float is aligned to offset 16 by both loops, and the buffer
holds every store. -/
theorem printfLegacyOptix_numeric_fits_int_float :
    ∃ buf, printfLegacyOptix { opname := "printf", nargs := 3 } ['%', 'd', ' ', '%', 'f']
      intFloatArgs = some buf ∧ ∀ st ∈ buf.stores, st.1 + st.2 ≤ buf.size :=
  printfLegacyOptix_numeric_fits _ _ intFloatArgs
    (by decide : scanOpFormat { opname := "printf", nargs := 3 } ['%', 'd', ' ', '%', 'f'] = .done 3)
    fun i _ _ => by unfold intFloatArgs; split <;> decide

example : printfLegacyOptix { opname := "printf", nargs := 3 } ['%', 'd', ' ', '%', 'f']
    intFloatArgs = some { size := 24, stores := [(0, 8), (8, 4), (16, 8)] } := by
  decide

end OslExec
