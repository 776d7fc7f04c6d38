import OpcodeForge.Text.Digit
import OpcodeForge.Text.Quoted

/-!
# Arguments

The arguments of the command are options only. A long option may be shortened as
long as one option is meant, and may have its argument attached behind an equals
sign; short options may be written together behind one dash.

All arguments are looked at before any of them takes effect, so an ambiguous option
is an error wherever it stands. Then they take effect from left to right: a request
for help ends the reading, and what is left over at the end is an error. Behind two
dashes everything is left over.

## Main definitions

* `CommandLine.Key`: What an option sets.
* `CommandLine.Shape`: What an argument is by itself.
* `CommandLine.shapeOf`: The shape of an argument.
* `CommandLine.Options`: What the arguments ask for.
* `CommandLine.parse`: The options that arguments give.
-/

namespace OpcodeForge.CommandLine

/-- What an option sets. -/
inductive Key
  | help
  | config
  | specDirectory
  | instructionsPath
  | dispatchPath
  | verbose
  | quiet
  deriving DecidableEq, Repr

/-- The spellings of an option. -/
def Key.spellings : Key → List String
  | .help => ["-h", "--help"]
  | .config => ["--config"]
  | .specDirectory => ["--spec-dir"]
  | .instructionsPath => ["--instructions-out"]
  | .dispatchPath => ["--clock-out"]
  | .verbose => ["-v", "--verbose"]
  | .quiet => ["-q", "--quiet"]

/-- Whether an option needs an argument. -/
def Key.takesArgument : Key → Bool
  | .config => true
  | .specDirectory => true
  | .instructionsPath => true
  | .dispatchPath => true
  | _ => false

/-- All options, in the order in which they are compared. -/
def keys : List Key :=
  [.help, .config, .specDirectory, .instructionsPath, .dispatchPath, .verbose, .quiet]

/-- All spellings with their options. -/
def spellings : List (String × Key) :=
  keys.flatMap fun k => k.spellings.map (·, k)

/-- The option with a spelling. -/
def keyOf? (spelling : String) : Option Key :=
  (spellings.find? (·.1 == spelling)).map (·.2)

/-- What an argument is by itself. -/
inductive Shape
  | operand
  /-- Two dashes alone. -/
  | separator
  /-- It looks like an option, but is none. -/
  | unknown
  /-- An option, whether its spelling is a short one, and the text attached to it. -/
  | option (key : Key) (short : Bool) (attached : Option String)
  deriving DecidableEq, Repr

/-- The texts before and after the first equals sign. -/
def splitEquals? (s : String) : Option (String × String) :=
  let before := s.toList.takeWhile (· ≠ '=')
  match s.toList.dropWhile (· ≠ '=') with
  | [] => none
  | _ :: after => some (String.ofList before, String.ofList after)

/-- Whether a text is one or more digits, of any script. -/
def allDigits (cs : List Char) : Bool :=
  !cs.isEmpty && cs.all Text.isDigit

/-- Whether an argument with a dash is a number below zero. A line feed may follow
    it. -/
def isNegativeNumber (cs : List Char) : Bool :=
  -- A line feed at the end does not make it something else.
  let body := match cs.getLast? with
    | some '\n' => cs.dropLast
    | _ => cs
  match body with
  | '-' :: rest =>
    allDigits rest
      || (match rest.dropWhile Text.isDigit with
        | '.' :: part => allDigits part
        | _ => false)
  | _ => false

/-- The spellings that start with a text. -/
def candidates (start : String) : List (String × Key) :=
  spellings.filter fun e => start.toList.isPrefixOf e.1.toList

/-- The shape of an argument with a dash that no option has as its start. -/
def otherShape (cs : List Char) : Shape :=
  -- No option has a blank in its spelling, so this is meant as a text.
  if isNegativeNumber cs || cs.contains ' ' then .operand else .unknown

/-- The shape of a shortened long option. The error is that more than one is
    meant. -/
def longShape (arg : String) : Except String Shape :=
  let (start, attached) := match splitEquals? arg with
    | some (before, after) => (before, some after)
    | none => (arg, none)
  match candidates start with
  | [] => .ok (otherShape arg.toList)
  | [(_, key)] => .ok (.option key false attached)
  | several =>
    .error ("ambiguous option: " ++ arg ++ " could match "
      ++ ", ".intercalate (several.map (·.1)))

/-- The shape of short options that are written together. -/
def clusterShape (arg : String) : Shape :=
  match keyOf? (String.ofList (arg.toList.take 2)) with
  | some key => .option key true (some (String.ofList (arg.toList.drop 2)))
  | none => otherShape arg.toList

/-- The shape of an argument that is no option as it stands, but has one before its
    equals sign. -/
def attachedShape? (arg : String) : Option Shape :=
  (splitEquals? arg).bind fun (before, after) =>
    (keyOf? before).map fun key => .option key (before.length == 2) (some after)

/-- The shape of an argument. -/
def shapeOf (arg : String) : Except String Shape :=
  match arg.toList with
  | '-' :: second :: rest =>
    -- Two dashes alone are the start of every long option, but mean none.
    if second == '-' && rest.isEmpty then .ok .separator
    else
      match keyOf? arg with
      | some key => .ok (.option key (second ≠ '-') none)
      | none =>
        match attachedShape? arg with
        | some shape => .ok shape
        | none => if second == '-' then longShape arg else .ok (clusterShape arg)
  | _ => .ok .operand

/-- The arguments with their shapes. Behind a separator there are operands only. -/
def shapes : List String → Except String (List (String × Shape))
  | [] => .ok []
  | arg :: rest =>
    match shapeOf arg with
    | .error e => .error e
    | .ok .separator => .ok ((arg, .separator) :: rest.map (·, .operand))
    | .ok shape => (shapes rest).map ((arg, shape) :: ·)

/-- What the arguments ask for. An empty text stands for what is not given. -/
structure Options where
  config : String
  specDirectory : String
  instructionsPath : String
  dispatchPath : String
  verbosity : Nat
  quiet : Bool
  deriving DecidableEq, Repr

/-- Nothing is asked for. -/
def Options.none : Options :=
  ⟨"", "", "", "", 0, false⟩

/-- Why there are no options to go by. -/
inductive Stop
  | help
  | misuse (message : String)
  deriving DecidableEq, Repr

/-- The error that an option is used in a wrong way. -/
def misuse (key : Key) (message : String) : Stop :=
  .misuse ("argument " ++ "/".intercalate key.spellings ++ ": " ++ message)

/-- The error that a text is attached to an option that needs none. -/
def ignored (key : Key) (attached : String) : Stop :=
  misuse key ("ignored explicit argument " ++ Text.quoted attached)

/-- Sets the argument of an option. A separator that is attached to an option counts
    as none. -/
def Options.set (o : Options) (key : Key) (argument : String) : Options :=
  -- The separator is dropped from what an option is given.
  let a := if argument == "--" then "" else argument
  match key with
  | .config => { o with config := a }
  | .specDirectory => { o with specDirectory := a }
  | .instructionsPath => { o with instructionsPath := a }
  | .dispatchPath => { o with dispatchPath := a }
  | _ => o

/-- Lets options without arguments take effect. -/
def Options.raise (o : Options) : List Key → Except Stop Options
  | [] => .ok o
  | .help :: _ => .error .help
  | .verbose :: rest => Options.raise { o with verbosity := o.verbosity + 1 } rest
  | .quiet :: rest => Options.raise { o with quiet := true } rest
  | _ :: rest => Options.raise o rest

/-- The short options in a text that is attached to another one. -/
def clusterKeys (key : Key) : List Char → Except Stop (List Key)
  | [] => .ok [key]
  | c :: rest =>
    match keyOf? (String.ofList ['-', c]) with
    | some next => (clusterKeys next rest).map (key :: ·)
    | none => .error (ignored key (String.ofList (c :: rest)))

/-- Lets an option with an attached text take effect. -/
def Options.attach (o : Options) (key : Key) (short : Bool) (attached : String) :
    Except Stop Options :=
  if key.takesArgument then .ok (o.set key attached)
  -- What is attached to a short option may be more short options.
  else if short && !attached.isEmpty then do
    o.raise (← clusterKeys key attached.toList)
  else .error (ignored key attached)

/-- Lets arguments take effect. The answer also has those that are left over, after
    the ones in `extra`. -/
def consume (o : Options) (extra : List String) :
    List (String × Shape) → Except Stop (Options × List String)
  | [] => .ok (o, extra)
  | (_, .option key short (some attached)) :: rest => do
    consume (← o.attach key short attached) extra rest
  | (_, .option key _ none) :: rest =>
    if key.takesArgument then
      match rest with
      -- Only what looks like no option can be the argument of one.
      | (argument, .operand) :: rest => consume (o.set key argument) extra rest
      | _ => .error (misuse key "expected one argument")
    else do
      consume (← o.raise [key]) extra rest
  | (arg, _) :: rest => consume o (extra ++ [arg]) rest

/-- The options that arguments give. -/
def parse (args : List String) : Except Stop Options :=
  match shapes args with
  | .error e => .error (.misuse e)
  | .ok shaped =>
    match consume .none [] shaped with
    | .error stop => .error stop
    | .ok (o, []) => .ok o
    | .ok (_, extra) =>
      .error (.misuse ("unrecognized arguments: " ++ " ".intercalate extra))

end OpcodeForge.CommandLine
