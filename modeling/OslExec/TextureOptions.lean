import OslExec.Bounds

/-!
# The texture-option sweep and its elision of defaults

`llvm_gen_texture_options` turns the optional `(name, value)` arguments of a `texture`,
`texture3d` or `environment` op into calls that fill a `TextureOpt`: it calls
`osl_init_texture_options`, then for each recognised option the runtime setter that assigns it.
A constant equal to the option's default is skipped while a `_set` flag records that no earlier
option assigned the field. The flags are shared between `width` and `swidth`, `twidth`, `rwidth`
(and alike for `blur` and `wrap`) and between `subimage` and its string form, the subimage name.

The sweep is modelled with its elision as a parameter: `llvmGenTextureOptions` skips defaults
as the generator does, `textureOptionsNoElision` emits the setter of every recognised option.
The runtime setters are outside the repository's files; each is an assignment to its field or
fields (`TextureCall.apply`).

## Key results

- `ElisionSim`: the invariant relating the two sweeps, kept by every option
  (`elisionSim_textureOptionStep`)
- `llvmGenTextureOptions_elision_sound`: both sweeps leave the same `TextureOpt` state
-/

namespace OslExec

/-! ### Options, fields and setters -/

/-- The options the sweep keeps a `_set` flag for, named after their flag. `interp` flags the
field `interpmode`. -/
inductive TexParam where
  | swidth
  | twidth
  | rwidth
  | sblur
  | tblur
  | rblur
  | swrap
  | twrap
  | rwrap
  | fill
  | firstchannel
  | subimage
  | interp
  deriving DecidableEq, Repr

/-- The fields of `TextureOpt` the setters assign: the flagged options' fields, the subimage
name (flagged by `subimage_set`), the missing-colour pointer and float `k` of the arena it points
to. -/
inductive TexField where
  | param (p : TexParam)
  | subimagename
  | missingcolor
  | arena (k : ℤ)
  deriving DecidableEq, Repr

/-- The `_set` flag that guards a field. -/
def TexField.flag : TexField → Option TexParam
  | .param p => some p
  | .subimagename => some .subimage
  | _ => none

/-- A value a field holds. -/
inductive TexVal (α : Type) where
  | int (i : ℤ)
  | float (x : α)
  | string (s : String)
  /-- the missing-colour pointer before it is set, and an arena float not yet written -/
  | null
  /-- the pointer to the op's missing-colour arena -/
  | arenaPtr
  deriving DecidableEq, Repr

/-- The contents of a `TextureOpt`. -/
abbrev TexState (α : Type) := TexField → TexVal α

section Defaults

variable {α : Type} [Field α]

/-- Modelled from the spec: the defaults of OpenImageIO's `TextureOpt`: widths one, blurs and
fill zero, wrap modes `WrapDefault`, first channel and subimage zero, interpolation
`InterpSmartBicubic`. -/
def TexParam.default : TexParam → TexVal α
  | .swidth | .twidth | .rwidth => .float 1
  | .sblur | .tblur | .rblur | .fill => .float 0
  | .swrap | .twrap | .rwrap | .firstchannel | .subimage => .int 0
  | .interp => .int 3

/-- Modelled from the spec: `TextureOpt` as `osl_init_texture_options` leaves it: every option at
its default, no subimage name and no missing colour. -/
def texDefault : TexState α
  | .param p => p.default
  | .subimagename => .string ""
  | .missingcolor | .arena _ => .null

end Defaults

/-- Modelled from the spec: OpenImageIO's `TextureOpt::decode_wrapmode`, the position of the name
among the wrap modes, `WrapDefault` for any other. -/
def decodeWrapmode (s : String) : ℤ :=
  match s with
  | "black" => 1
  | "clamp" => 2
  | "periodic" => 3
  | "mirror" => 4
  | "periodic_pow2" => 5
  | "periodic_sharedborder" => 6
  | _ => 0

/-- Modelled from the spec: `tex_interp_to_code`, `-1` for a name that is no interpolation
mode. -/
def texInterpToCode (s : String) : ℤ :=
  match s with
  | "smartcubic" => 3
  | "linear" => 1
  | "cubic" => 2
  | "closest" => 0
  | _ => -1

/-- The decoder the runtime's string setter of a flagged option uses. -/
def TexParam.decode : TexParam → String → ℤ
  | .swrap | .twrap | .rwrap => decodeWrapmode
  | .interp => texInterpToCode
  | _ => fun _ => -1

/-- The calls the sweep emits, and its copy into the missing-colour arena. -/
inductive TextureCall (α : Type) where
  /-- `osl_init_texture_options` -/
  | init
  /-- `osl_texture_set_<p>(opt, v)`, and `osl_texture_set_<p>_code(opt, code)` for the options
  given by a string decoded at compile time -/
  | set (p : TexParam) (v : TexVal α)
  /-- `osl_texture_set_stwidth`, `osl_texture_set_stblur` and `osl_texture_set_stwrap_code`:
  the `s` and `t` forms at once -/
  | setST (s t : TexParam) (v : TexVal α)
  /-- `osl_texture_set_<p>(opt, name)` with a string decoded when the shader runs -/
  | setString (p : TexParam) (name : String)
  /-- `osl_texture_set_stwrap(opt, name)` -/
  | setSTString (s t : TexParam) (name : String)
  /-- `osl_texture_set_subimagename` -/
  | subimagename (name : String)
  /-- `osl_texture_set_missingcolor_arena` -/
  | missingcolorArena
  /-- `op_memcpy` of a colour into the arena -/
  | missingcolorCopy (c : List α)
  /-- `osl_texture_set_missingcolor_alpha(opt, alphaindex, v)` -/
  | missingcolorAlpha (alphaindex : ℤ) (v : α)
  deriving Repr

namespace TextureCall

section Writes

variable {α : Type}

/-- The fields a call may change. -/
def Writes : TextureCall α → TexField → Prop
  | .init, _ => True
  | .set p _, f | .setString p _, f => f = .param p
  | .setST s t _, f | .setSTString s t _, f => f = .param s ∨ f = .param t
  | .subimagename _, f => f = .subimagename
  | .missingcolorArena, f => f = .missingcolor
  | .missingcolorCopy _, f => ∃ k, f = .arena k
  | .missingcolorAlpha k _, f => f = .arena k

/-- The flags of the flagged fields a call writes. -/
def flags : TextureCall α → List TexParam
  | .init => [.swidth, .twidth, .rwidth, .sblur, .tblur, .rblur, .swrap, .twrap, .rwrap, .fill,
      .firstchannel, .subimage, .interp]
  | .set p _ | .setString p _ => [p]
  | .setST s t _ | .setSTString s t _ => [s, t]
  | .subimagename _ => [.subimage]
  | _ => []

theorem mem_flags_of_writes {c : TextureCall α} {f : TexField} {p : TexParam} (hw : c.Writes f)
    (hf : f.flag = some p) : p ∈ c.flags := by
  cases c with
  | init => cases p <;> simp [flags]
  | missingcolorCopy => obtain ⟨k, rfl⟩ := hw; cases hf
  | _ => simp only [Writes] at hw; rcases hw with rfl | rfl <;> simp_all [TexField.flag, flags]

end Writes

variable {α : Type} [Field α]

/-- Modelled from the spec: what the runtime's setters do to the options. A string is decoded
and assigned unless the decoder rejects it with a negative code; the arena floats are written
through the pointer the arena call set. -/
def apply (opt : TexState α) : TextureCall α → TexState α
  | .init => texDefault
  | .set p v => Function.update opt (.param p) v
  | .setST s t v => Function.update (Function.update opt (.param s) v) (.param t) v
  | .setString p name =>
    if 0 ≤ p.decode name then Function.update opt (.param p) (.int (p.decode name)) else opt
  | .setSTString s t name =>
    if 0 ≤ s.decode name then
      Function.update (Function.update opt (.param s) (.int (s.decode name))) (.param t)
        (.int (t.decode name))
    else opt
  | .subimagename name => Function.update opt .subimagename (.string name)
  | .missingcolorArena => Function.update opt .missingcolor .arenaPtr
  | .missingcolorCopy c => fun f => match f with
    | .arena k => if h : k.toNat < c.length ∧ 0 ≤ k then .float (c.get ⟨k.toNat, h.1⟩) else opt f
    | f => opt f
  | .missingcolorAlpha k v => Function.update opt (.arena k) (.float v)

/-- A call leaves every field it does not write as it was. -/
theorem apply_of_not_writes (opt : TexState α) {c : TextureCall α} {f : TexField}
    (h : ¬ c.Writes f) : c.apply opt f = opt f := by
  cases c with
  | init => exact absurd trivial h
  | set | subimagename | missingcolorArena | missingcolorAlpha => exact Function.update_noteq h _ _
  | setST s t v =>
    simp only [Writes, not_or] at h
    rw [apply, Function.update_noteq h.2, Function.update_noteq h.1]
  | setString p name => simp only [apply]; split <;> simp [Function.update_noteq h]
  | setSTString s t name =>
    simp only [Writes, not_or] at h
    simp only [apply]; split <;> simp [Function.update_noteq h.1, Function.update_noteq h.2]
  | missingcolorCopy c =>
    simp only [Writes, not_exists] at h
    cases f <;> simp_all [apply]

end TextureCall

/-- The options after the calls, from `opt`. -/
def runTextureCalls {α : Type} [Field α] (opt : TexState α) (calls : List (TextureCall α)) :
    TexState α :=
  calls.foldl TextureCall.apply opt

/-! ### The sweep -/

/-- The diagnostics of the sweep. -/
inductive TexDiag where
  /-- `"texture{} optional argument \"{}\" must be constant after optimization ({}:{})"` -/
  | notConstant (tex3d : Bool) (name : String)
  /-- `"Unknown texture{} optional argument: \"{}\", <{}> ({}:{})"` -/
  | unknown (tex3d : Bool) (name : String) (valtype : TypeDesc)
  deriving DecidableEq, Repr

/-- The state of the sweep: the calls emitted, the `_set` flags, whether the missing-colour arena
was made, the symbols whose value (and derivatives) `alpha` and `errormessage` point at, and the
diagnostics. -/
structure TexGen (α : Type) where
  calls : List (TextureCall α) := [.init]
  set : TexParam → Bool := fun _ => false
  missingcolor : Bool := false
  alpha : Option Nat := none
  dalpha : Option Nat := none
  errormessage : Option Nat := none
  diags : List TexDiag := []

namespace TexGen

variable {α : Type}

/-- Append a call. -/
def emit (g : TexGen α) (c : TextureCall α) : TexGen α := { g with calls := g.calls ++ [c] }

/-- Set the flags `ps`. -/
def mark (g : TexGen α) (ps : List TexParam) : TexGen α :=
  { g with set := fun p => g.set p || p ∈ ps }

/-- Report a diagnostic. -/
def report (g : TexGen α) (d : TexDiag) : TexGen α := { g with diags := g.diags ++ [d] }

/-- `if (!missingcolor)`: make the arena and point the options at it, once. -/
def ensureMissingcolor (g : TexGen α) : TexGen α :=
  if g.missingcolor then g else { g.emit .missingcolorArena with missingcolor := true }

end TexGen

/-- The options `PARAM_FLOAT_STR` handles, each with three per-axis forms. -/
inductive TexAxes where
  | width
  | blur
  deriving DecidableEq, Repr

/-- The `s`, `t` and `r` forms. -/
def TexAxes.forms : TexAxes → TexParam × TexParam × TexParam
  | .width => (.swidth, .twidth, .rwidth)
  | .blur => (.sblur, .tblur, .rblur)

/-- The branch of the sweep an option takes, by its name and value type. -/
inductive TexOption where
  /-- `PARAM_FLOAT_STR`: `width` and `blur` -/
  | floatST (x : TexAxes)
  /-- `PARAM_FLOAT`: the per-axis widths and blurs, and `fill` -/
  | float (p : TexParam)
  /-- `wrap` -/
  | wrap
  /-- `PARAM_STRING_CODE`: the per-axis wrap modes and `interp` -/
  | stringCode (p : TexParam)
  /-- `PARAM_INT`: `firstchannel` and `subimage` -/
  | int (p : TexParam)
  /-- `subimage` given by name -/
  | subimagename
  | alpha
  | errormessage
  | missingcolor
  | missingalpha
  | colorspace
  | time
  | unknown
  deriving DecidableEq, Repr

/-- The tests of the sweep, in its order: the first option whose name and value type match. -/
def classifyTextureOption (name : String) (valtype : TypeDesc) : TexOption :=
  let floatOrInt := valtype = TypeDesc.TypeFloat ∨ valtype = TypeDesc.TypeInt
  let str := valtype = TypeDesc.TypeString
  if name = "width" ∧ floatOrInt then .floatST .width
  else if name = "swidth" ∧ floatOrInt then .float .swidth
  else if name = "twidth" ∧ floatOrInt then .float .twidth
  else if name = "rwidth" ∧ floatOrInt then .float .rwidth
  else if name = "blur" ∧ floatOrInt then .floatST .blur
  else if name = "sblur" ∧ floatOrInt then .float .sblur
  else if name = "tblur" ∧ floatOrInt then .float .tblur
  else if name = "rblur" ∧ floatOrInt then .float .rblur
  else if name = "wrap" ∧ str then .wrap
  else if name = "swrap" ∧ str then .stringCode .swrap
  else if name = "twrap" ∧ str then .stringCode .twrap
  else if name = "rwrap" ∧ str then .stringCode .rwrap
  else if name = "fill" ∧ floatOrInt then .float .fill
  else if name = "firstchannel" ∧ valtype = TypeDesc.TypeInt then .int .firstchannel
  else if name = "subimage" ∧ valtype = TypeDesc.TypeInt then .int .subimage
  else if name = "subimage" ∧ str then .subimagename
  else if name = "interp" ∧ str then .stringCode .interp
  else if name = "alpha" ∧ valtype = TypeDesc.TypeFloat then .alpha
  else if name = "errormessage" ∧ str then .errormessage
  else if name = "missingcolor" ∧ valtype.equivalent TypeDesc.TypeColor then .missingcolor
  else if name = "missingalpha" ∧ valtype = TypeDesc.TypeFloat then .missingalpha
  else if name = "colorspace" ∧ str then .colorspace
  else if name = "time" ∧ floatOrInt then .time
  else .unknown

section Sweep

variable {α : Type} [Field α] [DecidableEq α] (tab : Nat → Symbol) (ints : Nat → ℤ)
  (floats : Nat → Nat → α) (strs : Nat → String)

/-- `ival`: the value of a constant int. -/
def constInt (Val : Nat) : Option ℤ :=
  if (tab Val).typespec.isInt && (tab Val).isConstant then some (ints Val) else none

/-- `fval`: the value of a constant float. -/
def constFloat (Val : Nat) : Option α :=
  if (tab Val).typespec.isFloat && (tab Val).isConstant then some (floats Val 0) else none

/-- The value a float setter is passed: `llvm_load_value(Val)`, converted to float for an int. -/
def floatArg (Val : Nat) : α :=
  if (tab Val).typespec.simpletype = TypeDesc.TypeInt then (ints Val : α) else floats Val 0

/-- `(ival && *ival == d) || (fval && *fval == d)`. -/
def isDefaultConst (Val : Nat) (d : TexVal α) : Bool :=
  (constInt tab ints Val).any (fun i => decide (TexVal.float (i : α) = d)) ||
    (constFloat tab floats Val).any (fun x => decide (TexVal.float x = d))

variable (elide : Bool) (tex3d : Bool) (nchans : ℤ)

/-- `PARAM_FLOAT(p)`: unless it is a default constant for an unset option, the value goes to
`osl_texture_set_<p>`, and the option is set. -/
def paramFloat (p : TexParam) (Val : Nat) (g : TexGen α) : TexGen α :=
  if elide && !g.set p && isDefaultConst tab ints floats Val p.default then g
  else (g.emit (.set p (.float (floatArg tab ints floats Val)))).mark [p]

/-- `PARAM_FLOAT_STR(paramname)`: unless it is a default constant while none of the three forms is
set, the value goes to `osl_texture_set_st<paramname>` and, for 3D, to
`osl_texture_set_r<paramname>`, and all three forms are set. -/
def paramFloatStr (s t r : TexParam) (Val : Nat) (g : TexGen α) : TexGen α :=
  if elide && !g.set s && !g.set t && !g.set r && isDefaultConst tab ints floats Val s.default then g
  else
    let v := TexVal.float (floatArg tab ints floats Val)
    let g := g.emit (.setST s t v)
    let g := if tex3d then g.emit (.set r v) else g
    g.mark [s, t, r]

/-- `PARAM_INT(p)`. -/
def paramInt (p : TexParam) (Val : Nat) (g : TexGen α) : TexGen α :=
  if elide && !g.set p && (constInt tab ints Val).any (fun i => decide ((TexVal.int i : TexVal α) = p.default)) then g
  else (g.emit (.set p (.int (ints Val)))).mark [p]

/-- `PARAM_STRING_CODE(p, decoder, field)`: a constant is decoded; a default code for an unset
option is skipped, a non-negative one goes to `osl_texture_set_<p>_code`. Otherwise the string
goes to `osl_texture_set_<p>`. Either way the option is set. -/
def paramStringCode (p : TexParam) (decoder : String → ℤ) (Val : Nat) (g : TexGen α) :
    TexGen α :=
  if (tab Val).isConstant then
    let code := decoder (strs Val)
    if elide && !g.set p && decide ((TexVal.int code : TexVal α) = p.default) then g
    else (if 0 ≤ code then g.emit (.set p (.int code)) else g).mark [p]
  else (g.emit (.setString p (strs Val))).mark [p]

/-- `wrap`: the `s` and `t` wrap modes and, for 3D, `r`, by code for a constant and by name
otherwise; all three are set. -/
def wrapOption (Val : Nat) (g : TexGen α) : TexGen α :=
  let g :=
    if (tab Val).isConstant then
      let v := TexVal.int (decodeWrapmode (strs Val))
      let g := g.emit (.setST .swrap .twrap v)
      if tex3d then g.emit (.set .rwrap v) else g
    else
      let g := g.emit (.setSTString .swrap .twrap (strs Val))
      if tex3d then g.emit (.setString .rwrap (strs Val)) else g
  g.mark [.swrap, .twrap, .rwrap]

/-- `subimage` given by name: a constant empty name is ignored unless it overrides an earlier
subimage. -/
def subimageName (Val : Nat) (g : TexGen α) : TexGen α :=
  if elide && (tab Val).isConstant && strs Val = "" && !g.set .subimage then g
  else (g.emit (.subimagename (strs Val))).mark [.subimage]

/-- One `(name, value)` pair of the sweep, the name at argument `a`. -/
def textureOptionStep (op : Opcode) (args : List Nat) (g : TexGen α) (a : Nat) : TexGen α :=
  let name := strs (op.argSym args a)
  let Val := op.argSym args (a + 1)
  let valtype := (tab Val).typespec.simpletype
  if name = "" then g
  else
    match classifyTextureOption name valtype with
    | .floatST x => paramFloatStr tab ints floats elide tex3d x.forms.1 x.forms.2.1 x.forms.2.2 Val g
    | .float p => paramFloat tab ints floats elide p Val g
    | .wrap => wrapOption tab strs tex3d Val g
    | .stringCode p => paramStringCode tab strs elide p p.decode Val g
    | .int p => paramInt tab ints elide p Val g
    | .subimagename => subimageName tab strs elide Val g
    | .alpha => { g with alpha := some Val, dalpha := if (tab Val).hasDerivs then some Val else g.dalpha }
    | .errormessage => { g with errormessage := some Val }
    | .missingcolor =>
      g.ensureMissingcolor.emit (.missingcolorCopy [floats Val 0, floats Val 1, floats Val 2])
    | .missingalpha => g.ensureMissingcolor.emit (.missingcolorAlpha nchans (floats Val 0))
    | .colorspace => if (tab Val).isConstant then g else g.report (.notConstant tex3d name)
    | .time => g
    | .unknown => g.report (.unknown tex3d name valtype)

/-- The sweep over the pairs from argument `first` on: `a` steps by two while `a < nargs`. -/
def textureOptionsSweep (op : Opcode) (args : List Nat) (first : Nat) : TexGen α :=
  (List.range ((op.nargs - first + 1) / 2)).foldl
    (fun g k => textureOptionStep tab ints floats strs elide tex3d nchans op args g (first + 2 * k)) {}

end Sweep

section Generators

variable {α : Type} [Field α] [DecidableEq α] (tab : Nat → Symbol) (ints : Nat → ℤ)
  (floats : Nat → Nat → α) (strs : Nat → String) (tex3d : Bool) (nchans : ℤ)

/-- `llvm_gen_texture_options`: the sweep with its elision of defaults. -/
def llvmGenTextureOptions (op : Opcode) (args : List Nat) (first : Nat) : TexGen α :=
  textureOptionsSweep tab ints floats strs true tex3d nchans op args first

/-- Modelled from the spec: the sweep that emits the recognised setter of every option, with no
constant skipped for being the default. -/
def textureOptionsNoElision (op : Opcode) (args : List Nat) (first : Nat) : TexGen α :=
  textureOptionsSweep tab ints floats strs false tex3d nchans op args first

end Generators

/-! ### Elision is sound -/

namespace TexGen

variable {α : Type}

@[simp] theorem emit_calls (g : TexGen α) (c : TextureCall α) : (g.emit c).calls = g.calls ++ [c] :=
  rfl
@[simp] theorem emit_set (g : TexGen α) (c : TextureCall α) : (g.emit c).set = g.set := rfl
@[simp] theorem emit_missingcolor (g : TexGen α) (c : TextureCall α) :
    (g.emit c).missingcolor = g.missingcolor := rfl
@[simp] theorem mark_calls (g : TexGen α) (ps : List TexParam) : (g.mark ps).calls = g.calls := rfl
@[simp] theorem mark_set (g : TexGen α) (ps : List TexParam) (p : TexParam) :
    (g.mark ps).set p = (g.set p || p ∈ ps) := rfl
@[simp] theorem mark_missingcolor (g : TexGen α) (ps : List TexParam) :
    (g.mark ps).missingcolor = g.missingcolor := rfl
@[simp] theorem report_calls (g : TexGen α) (d : TexDiag) : (g.report d).calls = g.calls := rfl
@[simp] theorem report_set (g : TexGen α) (d : TexDiag) : (g.report d).set = g.set := rfl
@[simp] theorem report_missingcolor (g : TexGen α) (d : TexDiag) :
    (g.report d).missingcolor = g.missingcolor := rfl

/-- Making the arena appends its call the first time and records that it was made. -/
theorem ensureMissingcolor_eq (g : TexGen α) :
    g.ensureMissingcolor.calls = g.calls ++ (if g.missingcolor then [] else [.missingcolorArena]) ∧
      g.ensureMissingcolor.set = g.set ∧ g.ensureMissingcolor.missingcolor = true := by
  unfold ensureMissingcolor
  split <;> simp_all

end TexGen

section Sim

variable {α : Type} [Field α]

@[simp] theorem runTextureCalls_nil (opt : TexState α) : runTextureCalls opt [] = opt := rfl

@[simp] theorem runTextureCalls_cons (opt : TexState α) (c : TextureCall α) (cs : List (TextureCall α)) :
    runTextureCalls opt (c :: cs) = runTextureCalls (c.apply opt) cs := rfl

theorem runTextureCalls_append (opt : TexState α) (cs ds : List (TextureCall α)) :
    runTextureCalls opt (cs ++ ds) = runTextureCalls (runTextureCalls opt cs) ds :=
  List.foldl_append _ _ _ _

/-- Calls that do not write a field leave it as it was. -/
theorem runTextureCalls_of_not_writes (opt : TexState α) {cs : List (TextureCall α)} {f : TexField}
    (h : ∀ c ∈ cs, ¬ c.Writes f) : runTextureCalls opt cs f = opt f := by
  induction cs generalizing opt with
  | nil => rfl
  | cons c cs ih =>
    simp only [List.mem_cons, forall_eq_or_imp] at h
    exact (ih (c.apply opt) h.2).trans (c.apply_of_not_writes opt h.1)

/-- The invariant relating the sweep with elision (`g`) and without (`h`): their calls leave the
same options, every field whose flag `g` has not set still holds its default, and both have made
the missing-colour arena or neither has. -/
structure ElisionSim (opt₀ : TexState α) (g h : TexGen α) : Prop where
  state : runTextureCalls opt₀ g.calls = runTextureCalls opt₀ h.calls
  unset : ∀ f p, f.flag = some p → g.set p = false → runTextureCalls opt₀ g.calls f = texDefault f
  missingcolor : g.missingcolor = h.missingcolor

variable {opt₀ : TexState α} {g h g' h' : TexGen α}

/-- Both sweeps append the same calls, and `g` sets the flags `ps`, which cover every flagged
field the calls write. -/
theorem ElisionSim.extend (hs : ElisionSim opt₀ g h) (cs : List (TextureCall α)) (ps : List TexParam)
    (hg : g'.calls = g.calls ++ cs) (hh : h'.calls = h.calls ++ cs)
    (hm : g'.missingcolor = h'.missingcolor) (hset : ∀ p, g'.set p = (g.set p || p ∈ ps))
    (hw : ∀ c ∈ cs, ∀ p ∈ c.flags, p ∈ ps) :
    ElisionSim opt₀ g' h' where
  state := by rw [hg, hh, runTextureCalls_append, runTextureCalls_append, hs.state]
  unset f p hf hp := by
    simp only [hset, Bool.or_eq_false_iff, decide_eq_false_iff_not] at hp
    rw [hg, runTextureCalls_append,
      runTextureCalls_of_not_writes _ fun c hc hwr => hp.2 (hw c hc p (TextureCall.mem_flags_of_writes hwr hf))]
    exact hs.unset f p hf hp.1
  missingcolor := hm

/-- The sweep without elision appends calls that change nothing, where the sweep with elision
appends none. -/
theorem ElisionSim.skip (hs : ElisionSim opt₀ g h) (cs : List (TextureCall α))
    (hh : h'.calls = h.calls ++ cs) (hm : h'.missingcolor = h.missingcolor)
    (hnoop : runTextureCalls (runTextureCalls opt₀ h.calls) cs = runTextureCalls opt₀ h.calls) :
    ElisionSim opt₀ g h' where
  state := by rw [hh, runTextureCalls_append, hnoop, hs.state]
  unset := hs.unset
  missingcolor := hm.symm ▸ hs.missingcolor

/-- The field of an unset option holds its default in both sweeps' options. -/
theorem ElisionSim.param_default (hs : ElisionSim opt₀ g h) {p : TexParam} (hp : g.set p = false) :
    runTextureCalls opt₀ h.calls (.param p) = p.default :=
  hs.state ▸ hs.unset (.param p) p rfl hp

/-- A call that assigns its fields the values they hold changes nothing. -/
theorem apply_set_self {opt : TexState α} {p : TexParam} {v : TexVal α} (h : opt (.param p) = v) :
    (TextureCall.set p v).apply opt = opt := by
  rw [TextureCall.apply, ← h, Function.update_eq_self]

theorem apply_setST_self {opt : TexState α} {s t : TexParam} {v : TexVal α}
    (hs : opt (.param s) = v) (ht : opt (.param t) = v) : (TextureCall.setST s t v).apply opt = opt := by
  rw [TextureCall.apply, ← hs, Function.update_eq_self, hs, ← ht, Function.update_eq_self]

end Sim

section SweepSim

variable {α : Type} [Field α] [DecidableEq α] (tab : Nat → Symbol) (ints : Nat → ℤ)
  (floats : Nat → Nat → α) (strs : Nat → String) (tex3d : Bool) (nchans : ℤ)
  {opt₀ : TexState α} {g h : TexGen α}

/-- A default constant passes the default itself. -/
theorem float_floatArg_of_isDefaultConst {Val : Nat} {d : TexVal α}
    (hd : isDefaultConst tab ints floats Val d = true) :
    TexVal.float (floatArg tab ints floats Val) = d := by
  simp only [isDefaultConst, constInt, constFloat, TypeSpec.isInt, TypeSpec.isFloat,
    Bool.or_eq_true] at hd
  have : TypeDesc.TypeFloat ≠ TypeDesc.TypeInt := by decide
  rcases hd with hd | hd <;> split at hd <;> simp_all [floatArg]

theorem elisionSim_paramFloat (hs : ElisionSim opt₀ g h) (p : TexParam) (Val : Nat) :
    ElisionSim opt₀ (paramFloat tab ints floats true p Val g)
      (paramFloat tab ints floats false p Val h) := by
  simp only [paramFloat, Bool.false_and, Bool.false_eq_true, if_false, Bool.true_and]
  split
  · -- a default constant for an unset option: the call would assign the default
    rename_i hel
    simp only [Bool.and_eq_true, Bool.not_eq_true'] at hel
    refine hs.skip _ rfl rfl ?_
    simp [apply_set_self, float_floatArg_of_isDefaultConst tab ints floats hel.2,
      hs.param_default hel.1]
  · exact hs.extend _ [p] rfl rfl hs.missingcolor (fun _ => rfl) (by simp [TextureCall.flags])

omit [Field α] in
/-- An int default constant passes the default itself. -/
theorem int_of_isDefaultInt {Val : Nat} {d : TexVal α}
    (hd : (constInt tab ints Val).any (fun i => decide (TexVal.int i = d)) = true) :
    TexVal.int (ints Val) = d := by
  simp only [constInt] at hd
  split at hd <;> simp_all

theorem elisionSim_paramFloatStr (hs : ElisionSim opt₀ g h) {s t r : TexParam}
    (ht : (t.default : TexVal α) = s.default) (hr : (r.default : TexVal α) = s.default) (Val : Nat) :
    ElisionSim opt₀ (paramFloatStr tab ints floats true tex3d s t r Val g)
      (paramFloatStr tab ints floats false tex3d s t r Val h) := by
  simp only [paramFloatStr, Bool.false_and, Bool.false_eq_true, if_false, Bool.true_and]
  split
  · -- the three forms are unset, so they hold the default the calls would assign
    rename_i hel
    simp only [Bool.and_eq_true, Bool.not_eq_true'] at hel
    have hv := float_floatArg_of_isDefaultConst tab ints floats hel.2
    have hsd := hs.param_default hel.1.1.1
    have htd := hs.param_default hel.1.1.2
    have hrd := hs.param_default hel.1.2
    refine hs.skip (.setST s t (.float (floatArg tab ints floats Val)) ::
      if tex3d then [.set r (.float (floatArg tab ints floats Val))] else []) ?_ ?_ ?_ <;>
      cases tex3d <;> simp [apply_setST_self, apply_set_self, hsd, htd, hrd, ht, hr, hv]
  · refine hs.extend (.setST s t (.float (floatArg tab ints floats Val)) ::
      if tex3d then [.set r (.float (floatArg tab ints floats Val))] else []) [s, t, r]
      ?_ ?_ ?_ ?_ ?_ <;> cases tex3d
    all_goals first | exact hs.missingcolor | exact fun _ => rfl | simp [TextureCall.flags]

theorem elisionSim_paramInt (hs : ElisionSim opt₀ g h) (p : TexParam) (Val : Nat) :
    ElisionSim opt₀ (paramInt tab ints true p Val g) (paramInt tab ints false p Val h) := by
  simp only [paramInt, Bool.false_and, Bool.false_eq_true, if_false, Bool.true_and]
  split
  · rename_i hel
    simp only [Bool.and_eq_true, Bool.not_eq_true'] at hel
    exact hs.skip _ rfl rfl (by simp [apply_set_self,
      hs.param_default hel.1, int_of_isDefaultInt tab ints hel.2])
  · exact hs.extend _ [p] rfl rfl hs.missingcolor (fun _ => rfl) (by simp [TextureCall.flags])

theorem elisionSim_paramStringCode (hs : ElisionSim opt₀ g h) (p : TexParam)
    (decoder : String → ℤ) (Val : Nat) :
    ElisionSim opt₀ (paramStringCode tab strs true p decoder Val g)
      (paramStringCode tab strs false p decoder Val h) := by
  simp only [paramStringCode, Bool.false_and, Bool.false_eq_true, if_false, Bool.true_and]
  split
  · split
    · -- a default code for an unset option
      rename_i hel
      simp only [Bool.and_eq_true, Bool.not_eq_true', decide_eq_true_eq] at hel
      refine hs.skip (if 0 ≤ decoder (strs Val) then [.set p (.int (decoder (strs Val)))] else [])
        ?_ ?_ ?_ <;> split <;> simp [apply_set_self, hs.param_default hel.1, hel.2]
    · refine hs.extend (if 0 ≤ decoder (strs Val) then [.set p (.int (decoder (strs Val)))] else [])
        [p] ?_ ?_ ?_ ?_ ?_ <;> split
      all_goals first | exact hs.missingcolor | exact fun _ => rfl | simp [TextureCall.flags]
  · exact hs.extend _ [p] rfl rfl hs.missingcolor (fun _ => rfl) (by simp [TextureCall.flags])

omit [DecidableEq α] in
theorem elisionSim_wrapOption (hs : ElisionSim opt₀ g h) (Val : Nat) :
    ElisionSim opt₀ (wrapOption tab strs tex3d Val g) (wrapOption tab strs tex3d Val h) := by
  simp only [wrapOption]
  split
  · refine hs.extend (.setST .swrap .twrap (.int (decodeWrapmode (strs Val))) ::
      if tex3d then [.set .rwrap (.int (decodeWrapmode (strs Val)))] else []) [.swrap, .twrap, .rwrap]
      ?_ ?_ ?_ ?_ ?_ <;> cases tex3d
    all_goals first | exact hs.missingcolor | exact fun _ => rfl | simp [TextureCall.flags]
  · refine hs.extend (.setSTString .swrap .twrap (strs Val) ::
      if tex3d then [.setString .rwrap (strs Val)] else []) [.swrap, .twrap, .rwrap]
      ?_ ?_ ?_ ?_ ?_ <;> cases tex3d
    all_goals first | exact hs.missingcolor | exact fun _ => rfl | simp [TextureCall.flags]

omit [DecidableEq α] in
theorem elisionSim_subimageName (hs : ElisionSim opt₀ g h) (Val : Nat) :
    ElisionSim opt₀ (subimageName tab strs true Val g) (subimageName tab strs false Val h) := by
  simp only [subimageName, Bool.false_and, Bool.false_eq_true, if_false, Bool.true_and]
  split
  · -- an empty constant name while no subimage was given: the name is still empty
    rename_i hel
    simp only [Bool.and_eq_true, Bool.not_eq_true', decide_eq_true_eq] at hel
    have hd : runTextureCalls opt₀ h.calls .subimagename = .string "" :=
      hs.state ▸ hs.unset .subimagename .subimage rfl hel.2
    refine hs.skip _ rfl rfl ?_
    rw [runTextureCalls_cons, runTextureCalls_nil, TextureCall.apply, hel.1.2, ← hd]
    exact Function.update_eq_self _ _
  · exact hs.extend _ [.subimage] rfl rfl hs.missingcolor (fun _ => rfl) (by simp [TextureCall.flags])

omit [DecidableEq α] in
/-- The missing colour and alpha: both sweeps make the arena on the first of them and write the
same floats. -/
theorem elisionSim_ensureMissingcolor_emit (hs : ElisionSim opt₀ g h) (c : TextureCall α)
    (hc : c.flags = []) :
    ElisionSim opt₀ (g.ensureMissingcolor.emit c) (h.ensureMissingcolor.emit c) := by
  obtain ⟨hgc, hgs, hgm⟩ := g.ensureMissingcolor_eq
  obtain ⟨hhc, -, hhm⟩ := h.ensureMissingcolor_eq
  refine hs.extend ((if g.missingcolor then [] else [.missingcolorArena]) ++ [c]) [] ?_ ?_ ?_ ?_ ?_
  · simp [hgc]
  · simp [hhc, hs.missingcolor]
  · simp [hgm, hhm]
  · simp [hgs]
  · intro c' hc' p hp
    have : c' = .missingcolorArena ∨ c' = c := by split at hc' <;> simp_all
    rcases this with rfl | rfl
    · simp [TextureCall.flags] at hp
    · rw [hc] at hp; cases hp

omit [DecidableEq α] in
/-- `width` and `blur` set three forms whose defaults agree, so the `s` default stands for all. -/
theorem TexAxes.defaults_eq (x : TexAxes) :
    (x.forms.2.1.default : TexVal α) = x.forms.1.default ∧
      (x.forms.2.2.default : TexVal α) = x.forms.1.default := by
  cases x <;> exact ⟨rfl, rfl⟩

/-- One option keeps the invariant, whichever branch it takes. -/
theorem elisionSim_textureOptionStep (hs : ElisionSim opt₀ g h) (op : Opcode) (args : List Nat)
    (a : Nat) :
    ElisionSim opt₀ (textureOptionStep tab ints floats strs true tex3d nchans op args g a)
      (textureOptionStep tab ints floats strs false tex3d nchans op args h a) := by
  simp only [textureOptionStep]
  split
  · exact hs
  · generalize classifyTextureOption _ _ = k
    cases k with
    | floatST x =>
      exact elisionSim_paramFloatStr tab ints floats tex3d hs x.defaults_eq.1 x.defaults_eq.2 _
    | float p => exact elisionSim_paramFloat tab ints floats hs p _
    | wrap => exact elisionSim_wrapOption tab strs tex3d hs _
    | stringCode p => exact elisionSim_paramStringCode tab strs hs p _ _
    | int p => exact elisionSim_paramInt tab ints hs p _
    | subimagename => exact elisionSim_subimageName tab strs hs _
    | missingcolor => exact elisionSim_ensureMissingcolor_emit hs _ rfl
    | missingalpha => exact elisionSim_ensureMissingcolor_emit hs _ rfl
    | colorspace => dsimp only; split <;> exact ⟨hs.1, hs.2, hs.3⟩
    | alpha | errormessage | time | unknown => exact ⟨hs.1, hs.2, hs.3⟩

/-- Elision of defaults is sound: for every `texture`, `texture3d` or `environment` op, every
sequence of optional `(name, value)` arguments and every value they hold when the shader runs,
the calls `llvm_gen_texture_options` emits leave the options in the state the calls of the sweep
without elision leave them, from whatever state the options were in before. -/
theorem llvmGenTextureOptions_elision_sound (op : Opcode) (args : List Nat) (first : Nat)
    (opt₀ : TexState α) :
    runTextureCalls opt₀ (llvmGenTextureOptions tab ints floats strs tex3d nchans op args first).calls =
      runTextureCalls opt₀
        (textureOptionsNoElision tab ints floats strs tex3d nchans op args first).calls := by
  have hinit : ElisionSim opt₀ ({} : TexGen α) {} :=
    ⟨rfl, fun _ _ _ _ => by simp [TextureCall.apply], rfl⟩
  suffices ∀ (l : List Nat) (g h : TexGen α), ElisionSim opt₀ g h →
      ElisionSim opt₀
        (l.foldl (fun g k => textureOptionStep tab ints floats strs true tex3d nchans op args g
          (first + 2 * k)) g)
        (l.foldl (fun g k => textureOptionStep tab ints floats strs false tex3d nchans op args g
          (first + 2 * k)) h) from (this _ _ _ hinit).state
  intro l
  induction l with
  | nil => exact fun _ _ hs => hs
  | cons k l ih =>
    exact fun g h hs => ih _ _ (elisionSim_textureOptionStep tab ints floats strs tex3d nchans hs op args _)

/-- `texture(..., "width", 1.0, "swidth", 2)`: the default width is skipped, and the sweep
without elision sets both widths to one before `swidth` overrides the first. -/
example :
    let tab : Nat → Symbol := fun n =>
      if n = 1 then { name := "$c1", typespec := { simpletype := TypeDesc.TypeFloat }, symtype := .const }
      else if n = 3 then { name := "$c3", typespec := { simpletype := TypeDesc.TypeInt }, symtype := .const }
      else { name := "$c0", typespec := { simpletype := TypeDesc.TypeString }, symtype := .const }
    let strs : Nat → String := fun n => if n = 0 then "width" else "swidth"
    (llvmGenTextureOptions tab (fun _ => 2) (fun _ _ => (1 : ℚ)) strs false 0
        { opname := "texture", nargs := 4 } [0, 1, 2, 3] 0).calls.length = 2 ∧
      (textureOptionsNoElision tab (fun _ => 2) (fun _ _ => (1 : ℚ)) strs false 0
        { opname := "texture", nargs := 4 } [0, 1, 2, 3] 0).calls.length = 3 := by
  decide

end SweepSim

end OslExec
