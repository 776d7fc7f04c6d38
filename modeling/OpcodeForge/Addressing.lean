import OpcodeForge.Failure

/-!
# Addressing Modes

A specification names its addressing modes by labels such as `Zero Page,X`, and
the generated code calls each mode by a short code such as `zpx`. A registry
connects the two. It is built from a list of capabilities, of which the last one
with a label counts, and the last one with a code.

A mode that the generated code cannot handle is not left out but disabled. For a
look-up this makes no difference; a configuration may enable it again.

## Main definitions

* `Addressing.Capability`: A mode with its label, its code and whether it is
  enabled.
* `Addressing.Registry`: The modes of a run.
* `Addressing.Registry.resolve`: The mode with a label.
* `Addressing.Registry.withOverrides`: A registry with other flags.
-/

namespace OpcodeForge.Addressing

/-- An addressing mode. -/
structure Capability where
  label : String
  code : String
  enabled : Bool
  deriving DecidableEq, Repr

/-- The modes of the processor. Those that have no resolver are disabled. -/
def defaultCapabilities : List Capability := [
  ⟨"Implied", "imp", true⟩,
  ⟨"Immediate", "imm", true⟩,
  ⟨"Zero Page", "zp0", true⟩,
  ⟨"Zero Page,X", "zpx", true⟩,
  ⟨"Zero Page,Y", "zpy", true⟩,
  ⟨"Absolute", "abs", true⟩,
  ⟨"Absolute,X", "abx", true⟩,
  ⟨"Absolute,Y", "aby", true⟩,
  ⟨"Indirect,X", "izx", true⟩,
  ⟨"Indirect,Y", "izy", true⟩,
  ⟨"Indirect", "ind", false⟩,
  ⟨"Accumulator", "acc", false⟩,
  ⟨"Relative", "rel", false⟩]

/-- Puts a mode in the place of the one with its label, or at the end. -/
def setLabel (c : Capability) : List Capability → List Capability
  | [] => [c]
  | x :: rest => if x.label = c.label then c :: rest else x :: setLabel c rest

/-- The modes of a run. -/
structure Registry where
  /-- One mode for each label, in the order in which the labels came up. -/
  labelled : List Capability
  /-- All modes, the last one first, to be looked up by their codes. -/
  coded : List Capability
  deriving DecidableEq, Repr

namespace Registry

/-- The registry of a list of capabilities. -/
def ofList (cs : List Capability) : Registry where
  labelled := cs.foldl (fun acc c => setLabel c acc) []
  -- A look-up by code stops at the first that fits, which is the last one given.
  coded := cs.reverse

/-- The registry of the processor. -/
def default : Registry := ofList defaultCapabilities

/-- The mode with a label, be it enabled or not. -/
def byLabel? (r : Registry) (label : String) : Option Capability :=
  r.labelled.find? (·.label == label)

/-- The enabled mode with a code. -/
def byCode? (r : Registry) (code : String) : Option Capability :=
  -- A disabled mode hides earlier ones with its code.
  (r.coded.find? (·.code == code)).filter (·.enabled)

/-- The enabled mode with a label. -/
def enabledLabel? (r : Registry) (label : String) : Option Capability :=
  (r.byLabel? label).filter (·.enabled)

/-- Whether a label is that of an enabled mode. -/
def contains (r : Registry) (label : String) : Bool :=
  (r.enabledLabel? label).isSome

/-- Whether a code is that of an enabled mode. -/
def isEnabledCode (r : Registry) (code : String) : Bool :=
  (r.byCode? code).isSome

/-- The enabled modes. -/
def enabled (r : Registry) : List Capability :=
  r.labelled.filter (·.enabled)

/-- The mode that a row of a specification names. -/
def resolve (r : Registry) (label identifier opcodeText : String) :
    Except Failure Capability :=
  match r.enabledLabel? label with
  | some c => .ok c
  | none => .error (.unsupportedMode identifier label opcodeText)

/-- Sets the flags of some modes, one after the other. A label that has no mode is
    an error. -/
def setFlags (cs : List Capability) : List (String × Bool) →
    Except Failure (List Capability)
  | [] => .ok cs
  | (label, flag) :: rest =>
    match cs.find? (·.label == label) with
    | none => .error (.config (.unknownLabel label))
    | some c => setFlags (setLabel { c with enabled := flag } cs) rest

/-- The registry with other flags for some labels. -/
def withOverrides (r : Registry) (flags : List (String × Bool)) :
    Except Failure Registry :=
  (setFlags r.labelled flags).map ofList

end Registry

end OpcodeForge.Addressing
