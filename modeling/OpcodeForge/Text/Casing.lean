import OpcodeForge.Text.Casing.Table

/-!
# Lower and Upper Case

Macro names are written in lower case and reference rows compare their names in
upper case, over all of Unicode: a specification may be named in any script.
The mappings are the full ones. A letter may become two or three, so a text may
grow, and the lower case of a capital sigma depends on the letters around it.

ASCII is decided before the tables are searched. This is faster, and it keeps
the common case free of the tables in proofs.

## Main definitions

* `Text.lowerChars`, `Text.upperChars`: The mappings on lists of characters.
* `Text.lower`, `Text.upper`: The mappings on strings.

## Theorems

* `Text.upperChar_ascii`: On ASCII, upper case is core's `Char.toUpper`.
-/

namespace OpcodeForge.Text

/-- The partner of a code point by the runs, or the code point itself. -/
def applyRuns (runs : List CaseRun) (n : Nat) : Nat :=
  match runs.find? (·.contains n) with
  | some r => (n + r.shift).toNat
  | none => n

/-- The upper case of one character. -/
def upperChar (c : Char) : List Char :=
  if c.toNat < 128 then [c.toUpper]
  else match upperExpansions.lookup c.toNat with
    | some ns => ns.map Char.ofNat
    | none => [Char.ofNat (applyRuns upperRuns c.toNat)]

/-- Whether the first character that is not skipped has case. -/
def meetsCased (cs : List Char) : Bool :=
  match cs.find? fun c => !inRanges skippedRanges c.toNat with
  | some c => inRanges casedRanges c.toNat
  | none => false

/-- The lower case of one character between the characters before it, nearest
    first, and those after it. A capital sigma becomes a final sigma when a
    letter comes before it and none after it. -/
def lowerChar (before : List Char) (c : Char) (after : List Char) : List Char :=
  if c.toNat < 128 then [c.toLower]
  else if c.toNat == 0x3A3 then
    [if meetsCased before && !meetsCased after then 'ς' else 'σ']
  -- The dotted capital is the only letter that grows.
  else if c.toNat == 0x130 then ['i', '\u0307']
  else [Char.ofNat (applyRuns lowerRuns c.toNat)]

/-- The lower case of the text after the characters `before`, nearest first. -/
def lowerFrom (before : List Char) : List Char → List Char
  | [] => []
  | c :: rest => lowerChar before c rest ++ lowerFrom (c :: before) rest

/-- The lower case of a text. -/
def lowerChars (cs : List Char) : List Char :=
  lowerFrom [] cs

/-- The upper case of a text. -/
def upperChars (cs : List Char) : List Char :=
  cs.flatMap upperChar

/-- The lower case of a string. -/
def lower (s : String) : String :=
  String.ofList (lowerChars s.toList)

/-- The upper case of a string. -/
def upper (s : String) : String :=
  String.ofList (upperChars s.toList)

theorem upperChar_ascii (c : Char) (h : c.toNat < 128) :
    upperChar c = [c.toUpper] := by
  simp [upperChar, h]

theorem lowerFrom_ascii (before cs : List Char)
    (h : ∀ c ∈ cs, c.toNat < 128) : lowerFrom before cs = cs.map Char.toLower := by
  induction cs generalizing before with
  | nil => rfl
  | cons c rest ih =>
    have hc : c.toNat < 128 := h c (by simp)
    simp [lowerFrom, lowerChar, hc, ih _ fun d hd => h d (by simp [hd])]

end OpcodeForge.Text
