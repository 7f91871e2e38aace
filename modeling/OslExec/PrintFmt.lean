import OslExec.Format

/-!
# The fmtlib string of `llvm_gen_print_fmt`

`llvm_gen_print_fmt` translates the constant printf-style format of `printf`, `format`,
`fprintf`, `error` and `warning` into a format string for fmtlib, and pushes an encoded type
for every value it passes to the runtime. It walks the format with the loop of `scanFormat`.
Literal bytes are copied, with `{` and `}` doubled, and `%%` becomes `%`. A directive, from its
`%` to its conversion character, becomes one replacement field `{:spec}` per value of its
argument. The `spec` is the directive without its `%`: the first `-` becomes `<`, every other
`-` is erased, and the conversion character is replaced where it does not suit the argument's
type. The fields of an aggregate or an array are separated by a space; those of a closure
array are not.

The model builds the string as pieces (`FmtPiece`): literal characters and fields, rendered as
the generator appends them. The runtime that reads the string is not part of the source, so
fmtlib's reading of a format string (`fmtParse`) and of a standard format specification
(`fmtSpecValid`) are modelled from fmtlib's documentation.

## Key results

- `fmtParseGo_renderPieces_append`: fmtlib reads rendered pieces back, whatever follows them,
  when no field's spec holds a brace
- `llvmGenPrintFmt_reads_back`: so it reads the translated string as the prelude's text and the
  translation's pieces, with one field per encoded type
- `llvmGenPrintFmt_shape`: when every argument is a single value, the literal text and the fields
  stand where the source format has them
- `llvmGenPrintFmt_u_invalid`: a `%u` for an int argument becomes the field `{:u}`, which fmtlib
  rejects for an integer, so the string is not valid for the encoded types
-/

namespace OslExec

/-! ## Pieces of the translated string -/

/-- The encoded types `llvm_gen_print_fmt` pushes, one per value it passes to the runtime. -/
inductive EncodedType where
  | kUstringHash
  | kInt32
  | kUInt32
  | kFloat
  deriving DecidableEq, Repr

/-- A piece of the string the generator builds: a literal character, or a replacement field
`{:spec}`. -/
inductive FmtPiece where
  | lit (c : Char)
  | field (spec : List Char)
  deriving DecidableEq, Repr

namespace FmtPiece

/-- The characters the generator appends for a piece: a literal `{` or `}` is doubled, as
fmtlib expects. -/
def render : FmtPiece → List Char
  | lit c => if c = '{' ∨ c = '}' then [c, c] else [c]
  | field spec => '{' :: ':' :: spec ++ ['}']

/-- The spec of a field. -/
def spec? : FmtPiece → Option (List Char)
  | lit _ => none
  | field spec => some spec

/-- The character of a literal; a field is a hole. -/
def lit? : FmtPiece → Option Char
  | lit c => some c
  | field _ => none

end FmtPiece

/-- The characters of a list of pieces. -/
def renderPieces (ps : List FmtPiece) : List Char := ps.flatMap FmtPiece.render

/-- The specs of the fields among the pieces, in order. -/
def fieldSpecs (ps : List FmtPiece) : List (List Char) := ps.filterMap FmtPiece.spec?

/-! ## The translation -/

/-- The `-` fix-up: printf's left-justify flag becomes fmtlib's `<` at the first `-`, and the
`while` loop erases every other `-`. -/
def fixMinus (f : List Char) : List Char :=
  match f.span (· ≠ '-') with
  | (pre, _ :: post) => pre ++ '<' :: post.filter (· ≠ '-')
  | (pre, []) => pre

/-- `ourformat[ourformat.length() - 1] = c`. -/
def setLast (f : List Char) (c : Char) : List Char := f.dropLast ++ [c]

/-- The directive `ourformat`, from its `%` to its conversion character `formatchar`, doctored
for an argument of type `t`, with its `%` dropped: the spec of the argument's fields. -/
def doctorFormat (t : TypeSpec) (formatchar : Char) (ourformat : List Char) : List Char :=
  let f := fixMinus ourformat
  let f := if (t.isClosureBased ∨ t.simpletype.basetype = .string) ∧ formatchar ≠ 's'
    then setLast f 's' else f
  let f := if t.simpletype.basetype = .int ∧ formatchar ∉ ['d', 'o', 'u', 'x', 'X']
    then setLast f 'd' else f
  let f := if t.simpletype.basetype = .float ∧ formatchar ∉ ['f', 'g', 'e']
    then setLast f 'f' else f
  f.drop 1

/-- The encoded type of an argument's values: a hex directive promotes an int to unsigned. -/
def encodedType (t : TypeSpec) (formatchar : Char) : EncodedType :=
  match t.simpletype.basetype with
  | .int => if formatchar = 'x' ∨ formatchar = 'X' then .kUInt32 else .kInt32
  | .float => .kFloat
  | _ => .kUstringHash

/-- What a directive appends for an argument of type `t`: a field per element of a closure,
and otherwise a field per component, each but the first after a space; and the encoded type of
each field. -/
def argFields (t : TypeSpec) (spec : List Char) (et : EncodedType) :
    List FmtPiece × List EncodedType :=
  if t.isClosureBased then
    (List.replicate t.simpletype.numelements (.field spec),
      List.replicate t.simpletype.numelements et)
  else
    ((List.range t.simpletype.numelements).flatMap fun a =>
        (List.range t.simpletype.aggregate.toNat).flatMap fun c =>
          (if c ≠ 0 ∨ a ≠ 0 then [.lit ' '] else []) ++ [.field spec],
      List.replicate (t.simpletype.numelements * t.simpletype.aggregate.toNat) et)

/-- How the translation ends: at the terminator with the pieces of `s` and the encoded types,
at the argument-count error, or by reading past the terminator (as `ScanEnd`). -/
inductive PrintFmtEnd where
  | done (pieces : List FmtPiece) (types : List EncodedType)
  | mismatch
  | overread
  deriving DecidableEq, Repr

/-- The translation loop of `llvm_gen_print_fmt`, from argument `arg` with the pieces `ps` and
encoded types `ts` so far. `dir` is the directive being read, from its `%`; the loop scans as
`scanFormat` does. -/
def printFmtLoop (nargs : Nat) (argType : Nat → TypeSpec) :
    List Char → Nat → Option (List Char) → List FmtPiece → List EncodedType → PrintFmtEnd
  | [], _, none, ps, ts => .done ps ts
  | [], arg, some _, _, _ => if nargs ≤ arg then .mismatch else .overread
  | c :: rest, arg, some dir, ps, ts =>
    if isConversionChar c then
      if nargs ≤ arg then .mismatch
      else
        let t := argType arg
        let fs := argFields t (doctorFormat t c (dir ++ [c])) (encodedType t c)
        printFmtLoop nargs argType rest (arg + 1) none (ps ++ fs.1) (ts ++ fs.2)
    else printFmtLoop nargs argType rest arg (some (dir ++ [c])) ps ts
  | '%' :: '%' :: rest, arg, none, ps, ts =>
    printFmtLoop nargs argType rest arg none (ps ++ [.lit '%']) ts
  | '%' :: rest, arg, none, ps, ts => printFmtLoop nargs argType rest arg (some ['%']) ps ts
  | c :: rest, arg, none, ps, ts => printFmtLoop nargs argType rest arg none (ps ++ [.lit c]) ts

/-- The translation of `op`'s constant format `fmt`, with `argType i` the type of argument
`i`. -/
def llvmGenPrintFmt (op : Opcode) (fmt : List Char) (argType : Nat → TypeSpec) : PrintFmtEnd :=
  printFmtLoop op.nargs argType fmt (formatArg op + 1) none [] []

example : llvmGenPrintFmt { opname := "printf", nargs := 3 } "%-5d \x7b%s\x7d%%".toList
      (fun i => if i = 1 then { simpletype := TypeDesc.TypeInt }
        else { simpletype := TypeDesc.TypeString }) =
    .done [.field ['<', '5', 'd'], .lit ' ', .lit '{', .field ['s'], .lit '}', .lit '%']
      [.kInt32, .kUstringHash] := by decide

/-- What `error` and `warning` put before the translated string, unless the OptiX cache is in
use: `fmtformat("Shader {} [{}]: {}", op.opname(), shadername, s)`. -/
def printFmtPrelude (op : Opcode) (shadername : List Char) (useOptixCache : Bool) : List Char :=
  if !useOptixCache ∧ (op.opname = "error" ∨ op.opname = "warning") then
    "Shader ".toList ++ op.opname.toList ++ " [".toList ++ shadername ++ "]: ".toList
  else []

/-- The string passed to the runtime. -/
def printFmtString (op : Opcode) (shadername : List Char) (useOptixCache : Bool)
    (ps : List FmtPiece) : List Char :=
  printFmtPrelude op shadername useOptixCache ++ renderPieces ps

/-! ## fmtlib's reading of the string -/

/-- Modelled from the spec: where fmtlib's reading of a format string is: in literal text,
after a `{` or a `}`, or inside a replacement field's spec. -/
inductive FmtScan where
  | text
  | openBrace
  | closeBrace
  | spec (acc : List Char)

/-- Modelled from the spec: fmtlib reads a format string as literal text, where `{{` and `}}`
stand for a brace, and replacement fields `{}` or `{:spec}` with automatic argument indexing.
Argument ids and specs holding a brace (a width or precision taken from another argument) are
not among the strings the generator makes, and are rejected. -/
def fmtParseGo : List Char → FmtScan → Option (List FmtPiece)
  | [], .text => some []
  | [], _ => none
  | c :: r, .text =>
    if c = '{' then fmtParseGo r .openBrace
    else if c = '}' then fmtParseGo r .closeBrace
    else (fmtParseGo r .text).map (.lit c :: ·)
  | c :: r, .openBrace =>
    if c = '{' then (fmtParseGo r .text).map (.lit '{' :: ·)
    else if c = '}' then (fmtParseGo r .text).map (.field [] :: ·)
    else if c = ':' then fmtParseGo r (.spec [])
    else none
  | c :: r, .closeBrace => if c = '}' then (fmtParseGo r .text).map (.lit '}' :: ·) else none
  | c :: r, .spec acc =>
    if c = '}' then (fmtParseGo r .text).map (.field acc :: ·)
    else if c = '{' then none
    else fmtParseGo r (.spec (acc ++ [c]))

/-- Modelled from the spec: the pieces fmtlib reads a format string as. -/
def fmtParse (s : List Char) : Option (List FmtPiece) := fmtParseGo s .text

/-- Modelled from the spec: the parts of fmtlib's standard format specification
`[[fill]align][sign]["#"]["0"][width]["." precision]["L"][type]` that decide whether it suits
an argument. -/
structure FmtSpec where
  sign : Bool
  alt : Bool
  zero : Bool
  precision : Bool
  locale : Bool
  type : Option Char
  deriving DecidableEq, Repr

/-- Modelled from the spec: `[[fill]align]`, where a fill character other than a brace is read
only before an alignment. -/
def dropAlign : List Char → List Char
  | c :: a :: r =>
    if (a = '<' ∨ a = '>' ∨ a = '^') ∧ c ≠ '{' ∧ c ≠ '}' then r
    else if c = '<' ∨ c = '>' ∨ c = '^' then a :: r
    else c :: a :: r
  | [c] => if c = '<' ∨ c = '>' ∨ c = '^' then [] else [c]
  | [] => []

/-- Modelled from the spec: an optional flag character. -/
def takeFlag (p : Char → Bool) : List Char → Bool × List Char
  | c :: r => if p c then (true, r) else (false, c :: r)
  | [] => (false, [])

/-- Modelled from the spec: `["." precision]`, where the dot must be followed by a digit. -/
def takePrecision : List Char → Option (Bool × List Char)
  | '.' :: r => if r.head?.any Char.isDigit then some (true, r.dropWhile Char.isDigit) else none
  | s => some (false, s)

/-- Modelled from the spec: a standard format specification split into its parts; `none` when
characters are left after the type. -/
def parseFmtSpec (spec : List Char) : Option FmtSpec := do
  let (sign, s) := takeFlag (fun c => c = '+' ∨ c = '-' ∨ c = ' ') (dropAlign spec)
  let (alt, s) := takeFlag (· = '#') s
  let (zero, s) := takeFlag (· = '0') s
  let (precision, s) ← takePrecision (s.dropWhile Char.isDigit)
  let (locale, s) := takeFlag (· = 'L') s
  match s with
  | [] => some ⟨sign, alt, zero, precision, locale, none⟩
  | [c] => some ⟨sign, alt, zero, precision, locale, some c⟩
  | _ => none

/-- Modelled from the spec: a format specification fmtlib accepts for a value of encoded type
`t`. An integer takes no precision and the types `b B c d o x X`, and as a character no sign,
`#` or `0`; a float takes the types `a A e E f F g G`; a string, which the runtime makes of a
`ustringhash`, takes `s` or `?` and none of the numeric flags. -/
def fmtSpecValid (t : EncodedType) (spec : List Char) : Bool :=
  match parseFmtSpec spec, t with
  | none, _ => false
  | some f, .kInt32 | some f, .kUInt32 =>
    !f.precision && f.type.all (· ∈ ['b', 'B', 'c', 'd', 'o', 'x', 'X']) &&
      (f.type != some 'c' || !(f.sign || f.alt || f.zero))
  | some f, .kFloat => f.type.all (· ∈ ['a', 'A', 'e', 'E', 'f', 'F', 'g', 'G'])
  | some f, .kUstringHash =>
    !(f.sign || f.alt || f.zero || f.locale) && f.type.all (· ∈ ['s', '?'])

example : fmtSpecValid .kFloat ['6', '.', '2', 'f'] ∧ fmtSpecValid .kInt32 ['<', '5', 'd'] ∧
    fmtSpecValid .kUInt32 ['#', '0', '8', 'x'] ∧ !fmtSpecValid .kInt32 ['.', '3', 'd'] ∧
    !fmtSpecValid .kInt32 ['l', 'd'] := by decide

/-- Modelled from the spec: the fields, in order, take the values' encoded types, one each. -/
def fieldsValid : List FmtPiece → List EncodedType → Bool
  | [], [] => true
  | .lit _ :: ps, ts => fieldsValid ps ts
  | .field spec :: ps, t :: ts => fmtSpecValid t spec && fieldsValid ps ts
  | .field _ :: _, [] => false
  | [], _ :: _ => false

/-- Modelled from the spec: `s` is a format string fmtlib accepts for values of the encoded
types `ts`. -/
def fmtValid (s : List Char) (ts : List EncodedType) : Bool :=
  match fmtParse s with
  | some ps => fieldsValid ps ts
  | none => false

/-! ## fmtlib reads the rendered pieces back -/

theorem fmtParseGo_spec_append (acc spec r : List Char) (hl : '{' ∉ spec) (hr : '}' ∉ spec) :
    fmtParseGo (spec ++ '}' :: r) (.spec acc) =
      (fmtParseGo r .text).map (.field (acc ++ spec) :: ·) := by
  induction spec generalizing acc with
  | nil => simp [fmtParseGo]
  | cons c spec ih =>
    simp only [List.mem_cons, not_or] at hl hr
    simp [fmtParseGo, Ne.symm hl.1, Ne.symm hr.1, ih _ hl.2 hr.2]

/-- fmtlib reads a rendered piece, whatever follows it, as that piece. -/
theorem fmtParseGo_render_append (p : FmtPiece) (r : List Char)
    (hp : ∀ spec, p = .field spec → '{' ∉ spec ∧ '}' ∉ spec) :
    fmtParseGo (p.render ++ r) .text = (fmtParseGo r .text).map (p :: ·) := by
  cases p with
  | lit c =>
    by_cases hl : c = '{'
    · simp [FmtPiece.render, fmtParseGo, hl]
    by_cases hr : c = '}'
    · simp [FmtPiece.render, fmtParseGo, hr]
    · simp [FmtPiece.render, fmtParseGo, hl, hr]
  | field spec =>
    obtain ⟨hl, hr⟩ := hp spec rfl
    simp [FmtPiece.render, fmtParseGo, fmtParseGo_spec_append _ _ _ hl hr]

/-- The round trip: fmtlib reads the string of a list of pieces, whatever follows it, as those
pieces and then what it reads of the rest, when no field's spec holds a brace. -/
theorem fmtParseGo_renderPieces_append (ps : List FmtPiece) (r : List Char)
    (hps : ∀ spec, .field spec ∈ ps → '{' ∉ spec ∧ '}' ∉ spec) :
    fmtParseGo (renderPieces ps ++ r) .text = (fmtParseGo r .text).map (ps ++ ·) := by
  induction ps with
  | nil => simp [renderPieces]
  | cons p ps ih =>
    have hp : ∀ spec, p = .field spec → '{' ∉ spec ∧ '}' ∉ spec :=
      fun spec h => hps spec (h ▸ List.mem_cons_self _ _)
    rw [renderPieces, List.flatMap_cons, List.append_assoc, fmtParseGo_render_append p _ hp,
      ← renderPieces, ih fun spec h => hps spec (List.mem_cons_of_mem _ h), Option.map_map]
    rfl

/-- Text without braces is read as literal characters. -/
theorem fmtParseGo_plain_append (pre r : List Char) (hl : '{' ∉ pre) (hr : '}' ∉ pre) :
    fmtParseGo (pre ++ r) .text = (fmtParseGo r .text).map (pre.map .lit ++ ·) := by
  induction pre with
  | nil => simp
  | cons c pre ih =>
    simp only [List.mem_cons, not_or] at hl hr
    simp [fmtParseGo, Ne.symm hl.1, Ne.symm hr.1, ih hl.2 hr.2, Function.comp_def]

/-- Literal pieces take no encoded type. -/
@[simp] theorem fieldsValid_lits_append (l : List Char) (ps : List FmtPiece)
    (ts : List EncodedType) : fieldsValid (l.map .lit ++ ps) ts = fieldsValid ps ts := by
  induction l with
  | nil => rfl
  | cons c l ih => simpa [fieldsValid] using ih

/-! ## The translation's fields -/

/-- Every field a directive appends has its spec, and there is one per encoded type. -/
theorem fieldSpecs_argFields (t : TypeSpec) (spec : List Char) (et : EncodedType) :
    fieldSpecs (argFields t spec et).1 = List.replicate (argFields t spec et).2.length spec := by
  unfold argFields
  split
  · simp [fieldSpecs, FmtPiece.spec?, List.filterMap_replicate]
  · have hone : ∀ a c : Nat, fieldSpecs ((if c ≠ 0 ∨ a ≠ 0 then [.lit ' '] else []) ++
        [.field spec]) = List.replicate 1 spec := by
      intro a c; split <;> rfl
    simp only [fieldSpecs, List.filterMap_flatMap] at hone ⊢
    simp only [hone, List.flatMap_def, List.map_const', List.flatten_replicate_replicate,
      List.length_range, List.length_replicate, Nat.mul_one]

/-- A type has at least one element and one component. -/
theorem one_le_numelements (t : TypeDesc) : 1 ≤ t.numelements := by
  unfold TypeDesc.numelements; split <;> omega

theorem one_le_aggregate_toNat (a : Aggregate) : 1 ≤ a.toNat := by
  cases a <;> decide

/-- The first piece a directive appends is a field, with the first encoded type. -/
theorem argFields_eq_cons (t : TypeSpec) (spec : List Char) (et : EncodedType) :
    ∃ fs es, argFields t spec et = (.field spec :: fs, et :: es) := by
  obtain ⟨n, hn⟩ : ∃ n, t.simpletype.numelements = n + 1 :=
    ⟨_, (Nat.succ_pred_eq_of_pos (one_le_numelements _)).symm⟩
  obtain ⟨k, hk⟩ : ∃ k, t.simpletype.aggregate.toNat = k + 1 :=
    ⟨_, (Nat.succ_pred_eq_of_pos (one_le_aggregate_toNat _)).symm⟩
  unfold argFields
  split
  · exact ⟨_, _, by rw [hn]; rfl⟩
  · rw [hn, hk, Nat.succ_mul, ← Nat.add_assoc, List.replicate_succ, List.range_succ_eq_map,
      List.flatMap_cons, List.range_succ_eq_map, List.flatMap_cons,
      if_neg (show ¬((0 : Nat) ≠ 0 ∨ (0 : Nat) ≠ 0) by simp)]
    exact ⟨_, _, rfl⟩

/-- A property of the pieces and encoded types that appending a literal and appending the
fields of a directive keep holds when the loop ends. -/
theorem printFmtLoop_invariant {nargs : Nat} {argType : Nat → TypeSpec}
    (P : List FmtPiece → List EncodedType → Prop)
    (hlit : ∀ ps ts c, P ps ts → P (ps ++ [.lit c]) ts)
    (hdir : ∀ ps ts t spec et, P ps ts →
      P (ps ++ (argFields t spec et).1) (ts ++ (argFields t spec et).2))
    {fmt : List Char} {arg : Nat} {dir : Option (List Char)} {ps ps' : List FmtPiece}
    {ts ts' : List EncodedType} (h : printFmtLoop nargs argType fmt arg dir ps ts = .done ps' ts')
    (h0 : P ps ts) : P ps' ts' := by
  induction fmt, arg, dir, ps, ts using printFmtLoop.induct nargs argType with
  | case1 => simp only [printFmtLoop, PrintFmtEnd.done.injEq] at h; rwa [← h.1, ← h.2]
  | case2 arg _ _ _ hn | case3 arg _ _ _ hn => simp [printFmtLoop, hn] at h
  | case4 _ _ _ _ _ _ hc hn => simp [printFmtLoop, hc, hn] at h
  | case5 c rest arg dir ps ts hc hn _ _ ih =>
    simp only [printFmtLoop, hc, hn, if_true, if_false] at h
    exact ih h (hdir _ _ _ _ _ h0)
  | case6 c rest arg dir ps ts hc ih => simp only [printFmtLoop, hc] at h; exact ih h h0
  | case7 rest arg ps ts ih => rw [printFmtLoop.eq_4] at h; exact ih h (hlit _ _ _ h0)
  | case8 rest arg ps ts hr ih => rw [printFmtLoop.eq_5 _ _ _ _ _ _ hr] at h; exact ih h h0
  | case9 c rest arg ps ts h1 h2 ih =>
    rw [printFmtLoop.eq_6 _ _ _ _ _ _ _ h1 h2] at h
    exact ih h (hlit _ _ _ h0)

/-- The loop only appends to the pieces and encoded types it is given. -/
theorem printFmtLoop_done_append {nargs : Nat} {argType : Nat → TypeSpec} {fmt : List Char}
    {arg : Nat} {dir : Option (List Char)} {ps ps' : List FmtPiece} {ts ts' : List EncodedType}
    (h : printFmtLoop nargs argType fmt arg dir ps ts = .done ps' ts') :
    ∃ x y, ps' = ps ++ x ∧ ts' = ts ++ y :=
  printFmtLoop_invariant (fun ps₁ ts₁ => ∃ x y, ps₁ = ps ++ x ∧ ts₁ = ts ++ y)
    (fun _ _ c ⟨x, y, h1, h2⟩ => ⟨x ++ [.lit c], y, by rw [h1, List.append_assoc], h2⟩)
    (fun _ _ t spec et ⟨x, y, h1, h2⟩ => ⟨x ++ (argFields t spec et).1,
      y ++ (argFields t spec et).2, by rw [h1, List.append_assoc], by rw [h2, List.append_assoc]⟩)
    h ⟨[], [], (List.append_nil _).symm, (List.append_nil _).symm⟩

/-- The loop keeps one field per encoded type. -/
theorem printFmtLoop_fieldSpecs_length {nargs : Nat} {argType : Nat → TypeSpec}
    {fmt : List Char} {arg : Nat} {dir : Option (List Char)} {ps ps' : List FmtPiece}
    {ts ts' : List EncodedType} (h : printFmtLoop nargs argType fmt arg dir ps ts = .done ps' ts')
    (hc : (fieldSpecs ps).length = ts.length) : (fieldSpecs ps').length = ts'.length :=
  printFmtLoop_invariant (fun ps ts => (fieldSpecs ps).length = ts.length)
    (fun _ _ _ h => by simpa [fieldSpecs, FmtPiece.spec?] using h)
    (fun _ _ t spec et h => by
      simp only [fieldSpecs, List.filterMap_append, List.length_append] at h ⊢
      rw [h, ← fieldSpecs, fieldSpecs_argFields, List.length_replicate])
    h hc

/-! ## A `%u` for an int -/

/-- Literal text without a `%` is copied piece by piece. -/
theorem printFmtLoop_literal (nargs : Nat) (argType : Nat → TypeSpec) (lit rest : List Char)
    (arg : Nat) (ps : List FmtPiece) (ts : List EncodedType) (h : '%' ∉ lit) :
    printFmtLoop nargs argType (lit ++ rest) arg none ps ts =
      printFmtLoop nargs argType rest arg none (ps ++ lit.map .lit) ts := by
  induction lit generalizing ps with
  | nil => simp
  | cons c lit ih =>
    simp only [List.mem_cons, not_or] at h
    simp [printFmtLoop, Ne.symm h.1, ih _ h.2]

/-- `%u` for an int argument becomes the spec `u`, with the encoded type `kInt32`. -/
theorem printFmtLoop_percent_u (nargs : Nat) (argType : Nat → TypeSpec) (rest : List Char)
    (arg : Nat) (ps : List FmtPiece) (ts : List EncodedType) (hn : arg < nargs)
    (hint : (argType arg).simpletype.basetype = .int) (hcl : (argType arg).isClosureBased = false) :
    printFmtLoop nargs argType ('%' :: 'u' :: rest) arg none ps ts =
      printFmtLoop nargs argType rest (arg + 1) none (ps ++ (argFields (argType arg) ['u'] .kInt32).1)
        (ts ++ (argFields (argType arg) ['u'] .kInt32).2) := by
  have hd : doctorFormat (argType arg) 'u' ['%', 'u'] = ['u'] := by
    simp [doctorFormat, hint, hcl, fixMinus, setLast]
  simp [printFmtLoop, isConversionChar, Nat.not_le.mpr hn, hd, encodedType, hint]

/-- The prelude of `error` and `warning` holds no brace when the shader's name holds none. -/
theorem printFmtPrelude_braceFree (op : Opcode) {shadername : List Char} (useOptixCache : Bool)
    (hl : '{' ∉ shadername) (hr : '}' ∉ shadername) :
    '{' ∉ printFmtPrelude op shadername useOptixCache ∧
      '}' ∉ printFmtPrelude op shadername useOptixCache := by
  unfold printFmtPrelude
  split
  · rename_i h
    obtain ⟨-, h | h⟩ := h <;> simp [h, hl, hr]
  · simp

/-- fmtlib reads the string passed to the runtime as the prelude's text and the pieces `ps`,
then as whatever the pieces after them read as. -/
theorem fmtParse_printFmtString (op : Opcode) {shadername : List Char} (useOptixCache : Bool)
    (ps rest : List FmtPiece) (hl : '{' ∉ shadername) (hr : '}' ∉ shadername)
    (hps : ∀ spec, .field spec ∈ ps → '{' ∉ spec ∧ '}' ∉ spec) :
    fmtParse (printFmtString op shadername useOptixCache (ps ++ rest)) =
      (fmtParseGo (renderPieces rest) .text).map
        ((printFmtPrelude op shadername useOptixCache).map .lit ++ ps ++ ·) := by
  obtain ⟨hpl, hpr⟩ := printFmtPrelude_braceFree op useOptixCache hl hr
  rw [fmtParse, printFmtString, fmtParseGo_plain_append _ _ hpl hpr, renderPieces,
    List.flatMap_append, ← renderPieces, ← renderPieces, fmtParseGo_renderPieces_append _ _ hps,
    Option.map_map]
  simp only [Function.comp_def, List.append_assoc]

/-- A `%u` directive for an int argument makes the string invalid for fmtlib: it becomes the
field `{:u}`, and `u` is not a presentation type of fmtlib. Shown for every format whose first
directive is `%u`, after any literal text and followed by anything. -/
theorem llvmGenPrintFmt_u_invalid (op : Opcode) (shadername : List Char) (useOptixCache : Bool)
    (lit post : List Char) (argType : Nat → TypeSpec) {ps : List FmtPiece}
    {ts : List EncodedType} (hlit : '%' ∉ lit) (hl : '{' ∉ shadername) (hr : '}' ∉ shadername)
    (hint : (argType (formatArg op + 1)).simpletype.basetype = .int)
    (hcl : (argType (formatArg op + 1)).isClosureBased = false)
    (hdone : llvmGenPrintFmt op (lit ++ '%' :: 'u' :: post) argType = .done ps ts) :
    fmtValid (printFmtString op shadername useOptixCache ps) ts = false := by
  unfold llvmGenPrintFmt at hdone
  rw [printFmtLoop_literal _ _ _ _ _ _ _ hlit] at hdone
  by_cases hn : op.nargs ≤ formatArg op + 1
  · simp [printFmtLoop, isConversionChar, hn] at hdone
  rw [printFmtLoop_percent_u _ _ _ _ _ _ (Nat.not_le.mp hn) hint hcl] at hdone
  obtain ⟨fs, es, hf⟩ := argFields_eq_cons (argType (formatArg op + 1)) ['u'] .kInt32
  rw [hf] at hdone
  obtain ⟨x, y, rfl, rfl⟩ := printFmtLoop_done_append hdone
  have hbr : ∀ spec, .field spec ∈ lit.map .lit ++ [FmtPiece.field ['u']] →
      '{' ∉ spec ∧ '}' ∉ spec := fun spec h => by simp at h; subst h; decide
  -- fmtlib reads the prelude and the literal text, then the field `{:u}`
  rw [fmtValid, show [] ++ lit.map .lit ++ (.field ['u'] :: fs) ++ x =
      (lit.map .lit ++ [.field ['u']]) ++ (fs ++ x) by simp,
    fmtParse_printFmtString op useOptixCache _ _ hl hr hbr]
  cases fmtParseGo (renderPieces (fs ++ x)) .text with
  | none => rfl
  | some q =>
    have hu : fmtSpecValid .kInt32 ['u'] = false := by decide
    simp [fieldsValid, hu]

/-- `printf("%u", i)` for an int `i`: the string passed to the runtime is `{:u}`. -/
theorem llvmGenPrintFmt_u_invalid_printf :
    llvmGenPrintFmt { opname := "printf", nargs := 2 } ['%', 'u']
        (fun _ => { simpletype := TypeDesc.TypeInt }) = .done [.field ['u']] [.kInt32] ∧
      fmtValid (printFmtString { opname := "printf", nargs := 2 } [] false [.field ['u']])
        [.kInt32] = false :=
  have h : llvmGenPrintFmt { opname := "printf", nargs := 2 } ['%', 'u']
      (fun _ => { simpletype := TypeDesc.TypeInt }) = .done [.field ['u']] [.kInt32] := by decide
  ⟨h, llvmGenPrintFmt_u_invalid _ [] false [] [] (fun _ => { simpletype := TypeDesc.TypeInt })
    (by decide) (by decide) (by decide) rfl rfl h⟩

/-- When no directive holds a brace, fmtlib reads the string passed to the runtime as the
prelude's text followed by the translation's pieces, and those hold one field per encoded
type. -/
theorem llvmGenPrintFmt_reads_back (op : Opcode) (shadername : List Char) (useOptixCache : Bool)
    (fmt : List Char) (argType : Nat → TypeSpec) {ps : List FmtPiece} {ts : List EncodedType}
    (hdone : llvmGenPrintFmt op fmt argType = .done ps ts) (hl : '{' ∉ shadername)
    (hr : '}' ∉ shadername) (hps : ∀ spec, .field spec ∈ ps → '{' ∉ spec ∧ '}' ∉ spec) :
    fmtParse (printFmtString op shadername useOptixCache ps) =
        some ((printFmtPrelude op shadername useOptixCache).map .lit ++ ps) ∧
      (fieldSpecs ps).length = ts.length := by
  refine ⟨?_, printFmtLoop_fieldSpecs_length hdone rfl⟩
  simpa [fmtParseGo] using fmtParse_printFmtString op useOptixCache ps [] hl hr hps

/-- `printf("%d", i)` becomes the one field `{:d}` for one int, and fmtlib reads it back. -/
theorem llvmGenPrintFmt_reads_back_int :
    fmtParse (printFmtString { opname := "printf", nargs := 2 } ['s'] false [.field ['d']]) =
        some ((printFmtPrelude { opname := "printf", nargs := 2 } ['s'] false).map .lit ++
          [.field ['d']]) ∧
      (fieldSpecs [.field ['d']]).length = [EncodedType.kInt32].length :=
  llvmGenPrintFmt_reads_back _ _ false ['%', 'd'] (fun _ => { simpletype := TypeDesc.TypeInt })
    (by decide) (by decide) (by decide)
    (fun spec h => by simp only [List.mem_singleton, FmtPiece.field.injEq] at h; subst h; decide)

/-! ## The literal text around the fields -/

/-- Modelled from the spec: the source format as fmtlib should see it, a literal character for
each character outside the directives, with `%%` read as `%`, and a hole for each directive. -/
def formatShape : List Char → Bool → List (Option Char)
  | [], _ => []
  | c :: rest, true =>
    if isConversionChar c then none :: formatShape rest false else formatShape rest true
  | '%' :: '%' :: rest, false => some '%' :: formatShape rest false
  | '%' :: rest, false => formatShape rest true
  | c :: rest, false => some c :: formatShape rest false

/-- A type with one value: one element, and a closure or a single component. -/
def OneValue (t : TypeSpec) : Prop :=
  t.simpletype.numelements = 1 ∧ (t.isClosureBased ∨ t.simpletype.aggregate = .scalar)

theorem argFields_of_oneValue {t : TypeSpec} (h : OneValue t) (spec : List Char)
    (et : EncodedType) : argFields t spec et = ([.field spec], [et]) := by
  obtain ⟨hn, hc | ha⟩ := h
  · simp [argFields, hc, hn]
  · by_cases hc : t.isClosureBased
    · simp [argFields, hc, hn]
    · simp [argFields, hc, hn, ha, Aggregate.toNat, List.range_succ]

/-- When every argument is a single value, the translation's literal characters and fields
follow the source format's shape. -/
theorem printFmtLoop_shape {nargs : Nat} {argType : Nat → TypeSpec} {fmt : List Char}
    {arg : Nat} {dir : Option (List Char)} {ps ps' : List FmtPiece} {ts ts' : List EncodedType}
    (h : printFmtLoop nargs argType fmt arg dir ps ts = .done ps' ts')
    (hone : ∀ i, OneValue (argType i)) :
    ps'.map FmtPiece.lit? = ps.map FmtPiece.lit? ++ formatShape fmt dir.isSome := by
  induction fmt, arg, dir, ps, ts using printFmtLoop.induct nargs argType with
  | case1 => simp only [printFmtLoop, PrintFmtEnd.done.injEq] at h; simp [h.1, formatShape]
  | case2 arg _ _ _ hn | case3 arg _ _ _ hn => simp [printFmtLoop, hn] at h
  | case4 _ _ _ _ _ _ hc hn => simp [printFmtLoop, hc, hn] at h
  | case5 c rest arg dir ps ts hc hn t fs ih =>
    simp only [printFmtLoop, hc, hn, if_true, if_false] at h
    simp [ih h, fs, t, argFields_of_oneValue (hone arg), formatShape, hc, FmtPiece.lit?]
  | case6 c rest arg dir ps ts hc ih =>
    simp only [printFmtLoop, hc] at h
    simp [ih h, formatShape, hc]
  | case7 rest arg ps ts ih =>
    rw [printFmtLoop.eq_4] at h
    simp [ih h, formatShape, FmtPiece.lit?]
  | case8 rest arg ps ts hr ih =>
    rw [printFmtLoop.eq_5 _ _ _ _ _ _ hr] at h
    rw [ih h, Option.isSome_none, formatShape.eq_4 rest hr]
    rfl
  | case9 c rest arg ps ts h1 h2 ih =>
    rw [printFmtLoop.eq_6 _ _ _ _ _ _ _ h1 h2] at h
    rw [ih h, Option.isSome_none, formatShape.eq_5 c rest h1 h2]
    simp [FmtPiece.lit?]

/-- When every argument is a single value, the string's literal text and fields are the
source's: each character outside the directives, with `%%` read as `%`, and a field for each
directive. -/
theorem llvmGenPrintFmt_shape (op : Opcode) (fmt : List Char) (argType : Nat → TypeSpec)
    {ps : List FmtPiece} {ts : List EncodedType}
    (hdone : llvmGenPrintFmt op fmt argType = .done ps ts) (hone : ∀ i, OneValue (argType i)) :
    ps.map FmtPiece.lit? = formatShape fmt false :=
  printFmtLoop_shape hdone hone

/-- `printf("%d", i)`: the one field stands where the directive does. -/
theorem llvmGenPrintFmt_shape_int :
    [FmtPiece.field ['d']].map FmtPiece.lit? = formatShape ['%', 'd'] false :=
  llvmGenPrintFmt_shape { opname := "printf", nargs := 2 } ['%', 'd']
    (fun _ => { simpletype := TypeDesc.TypeInt })
    (by decide : llvmGenPrintFmt { opname := "printf", nargs := 2 } ['%', 'd']
      (fun _ => { simpletype := TypeDesc.TypeInt }) = .done [.field ['d']] [.kInt32])
    (fun _ => ⟨rfl, .inr rfl⟩)

/-- A color argument is three fields with a space between each two, text that is not in the
source format. -/
example : llvmGenPrintFmt { opname := "printf", nargs := 2 } ['%', 'g']
      (fun _ => { simpletype := TypeDesc.TypeColor }) =
    .done [.field ['g'], .lit ' ', .field ['g'], .lit ' ', .field ['g']]
      [.kFloat, .kFloat, .kFloat] := by decide

end OslExec
