import CardOcr.Config.Decode
import CardOcr.Config.Validate
import CardOcr.Geometry.Quad

/-! # The command line

The scanner's command line has two subcommands:

* `scan IMAGE... [--config FILE] [--quad CORNERS] [--repeat N] [--amex]` feeds still
  pictures through a scanning session as consecutive camera frames, `N` rounds of them
  (ten by default), and prints the report of the first card read;
* `synth --number DIGITS --out FILE [--expiry MM/YY] [--width W] [--height H] [--noise A]
  [--seed S] [--flipped] [--amex]` draws a card into a frame and prints its corners.

`-v` (`--verbose`) may stand anywhere and reports each frame.  `Invocation.parse` reads
the arguments into an `Invocation`; a value goes after its option or after `=`.  A usage
error (`UsageError`) is worded as the argument reader of the command line words it.  Corner
lists and expiry dates are read by `Quad.ofCornerText` and `expiryOfText`; a failure is a
`Failure`, a message with the chain of its causes.
-/

namespace CardOcr

/-- Options of the `scan` subcommand. -/
structure ScanOptions where
  images : List String
  config : Option String := none
  quad : Option String := none
  repeats : Nat := 10
  amex : Bool := false
  debugOut : Option String := none
  deriving Repr, Inhabited

/-- Options of the `synth` subcommand. -/
structure SynthOptions where
  number : String
  out : String
  expiry : Option String := none
  width : Nat := 640
  height : Nat := 480
  noise : Nat := 0
  seed : Nat := 0
  flipped : Bool := false
  amex : Bool := false
  deriving Repr, Inhabited

/-- What the command line asks for. -/
inductive Command where
  | scan (o : ScanOptions)
  | synth (o : SynthOptions)
  /-- Print a help text and stop. -/
  | help (text : String)
  deriving Repr, Inhabited

/-- A command with the global flag. -/
structure Invocation where
  verbose : Bool
  command : Command
  deriving Repr, Inhabited

/-- A command line that could not be read; the text is what is printed. -/
structure UsageError where
  text : String
  deriving Repr, Inhabited

/-- A failure of a command: its message and the chain of causes, outermost first. -/
structure Failure where
  message : String
  causes : List String := []
  deriving Repr, Inhabited

/-- The failure wrapped in an outer message, its old message becoming the first cause. -/
def Failure.context (f : Failure) (msg : String) : Failure :=
  { message := msg, causes := f.message :: f.causes }

/-- The text of a failure: `Error: message`, then the causes under `Caused by:`, numbered
    when there are several. -/
def Failure.render (f : Failure) : String :=
  "Error: " ++ f.message ++
    match f.causes with
    | [] => ""
    | [c] => "\n\nCaused by:\n    " ++ c
    | cs => "\n\nCaused by:" ++ String.join ((List.range cs.length).zip cs |>.map
        fun (i, c) => "\n    " ++ toString i ++ ": " ++ c)

namespace Command

/-- Name of the program. -/
def program : String := "cardscan"

/-- Usage lines of the subcommands. -/
def scanUsage : String := "Usage: " ++ program ++ " scan [OPTIONS] <IMAGE>..."
def synthUsage : String := "Usage: " ++ program ++ " synth [OPTIONS] --number <NUMBER> --out <OUT>"
def mainUsage : String := "Usage: " ++ program ++ " [OPTIONS] <COMMAND>"

/-- Help of the whole program. -/
def mainHelp : String :=
  "Read payment card numbers from camera frames\n\n" ++ mainUsage ++ "\n\nCommands:\n" ++
  "  scan   Feed still images through a scan session as camera frames\n" ++
  "  synth  Render a synthetic card frame\n" ++
  "  help   Print this message or the help of the given subcommand(s)\n\n" ++
  "Options:\n  -v, --verbose  Enable verbose output\n  -h, --help     Print help"

/-- Help of `scan`. -/
def scanHelp : String :=
  "Feed still images through a scan session as camera frames\n\n" ++ scanUsage ++
  "\n\nArguments:\n  <IMAGE>...  Input image files, used as consecutive frames\n\n" ++
  "Options:\n  -c, --config <FILE>    JSON config file\n" ++
  "      --quad <CORNERS>   Card corners \"x1,y1,x2,y2,x3,y3,x4,y4\" instead of searching the guide region\n" ++
  "      --repeat <REPEAT>  Times each image is fed as a frame [default: 10]\n" ++
  "      --amex             Use the 4-6-5 American Express layout\n" ++
  "      --debug-out <DIR>  Save debug outputs to directory (must be empty)\n" ++
  "  -v, --verbose          Enable verbose output\n  -h, --help             Print help"

/-- Help of `synth`. -/
def synthHelp : String :=
  "Render a synthetic card frame\n\n" ++ synthUsage ++
  "\n\nOptions:\n      --number <NUMBER>  Card number to emboss\n" ++
  "      --expiry <EXPIRY>  Expiry as MM/YY\n  -o, --out <OUT>        Output image path\n" ++
  "      --width <WIDTH>    [default: 640]\n      --height <HEIGHT>  [default: 480]\n" ++
  "      --noise <NOISE>    Uniform noise amplitude in grey levels [default: 0]\n" ++
  "      --seed <SEED>      [default: 0]\n      --flipped          Render the card upside down\n" ++
  "      --amex             Use the 4-6-5 American Express layout\n" ++
  "  -v, --verbose          Enable verbose output\n  -h, --help             Print help"

/-- A usage error with the usage line and the pointer to the help. -/
def usageError (msg usage : String) : UsageError :=
  ⟨"error: " ++ msg ++ "\n\n" ++ usage ++ "\n\nFor more information, try '--help'."⟩

/-- Reads an unsigned decimal of `bits` bits, with an optional leading `+`. -/
def readUnsigned (bits : Nat) (s : String) : Except String Nat :=
  let digits := if s.startsWith "+" then (s.drop 1).toString else s
  if s.isEmpty then .error "cannot parse integer from empty string"
  else if digits.isEmpty || !digits.all Char.isDigit then .error "invalid digit found in string"
  else
    let n := digits.foldl (fun acc c => acc * 10 + (c.toNat - 48)) 0
    if n < Nat.pow 2 bits then .ok n else .error "number too large to fit in target type"

/-- An option that takes a value: its long name, its short letter if any, and the name of
    its value. -/
structure ValueOption where
  long : String
  short : Option Char := none
  value : String

/-- The `'--long <VALUE>'` text that names an option in an error. -/
def ValueOption.shown (o : ValueOption) : String :=
  match o.short with
  | some c => "'-" ++ String.singleton c ++ ", --" ++ o.long ++ " <" ++ o.value ++ ">'"
  | none => "'--" ++ o.long ++ " <" ++ o.value ++ ">'"

/-- Options with values of the two subcommands. -/
def scanValued : List ValueOption :=
  [⟨"config", some 'c', "FILE"⟩, ⟨"quad", none, "CORNERS"⟩, ⟨"repeat", none, "REPEAT"⟩,
   ⟨"debug-out", none, "DIR"⟩]
def synthValued : List ValueOption :=
  [⟨"number", none, "NUMBER"⟩, ⟨"expiry", none, "EXPIRY"⟩, ⟨"out", some 'o', "OUT"⟩,
   ⟨"width", none, "WIDTH"⟩, ⟨"height", none, "HEIGHT"⟩, ⟨"noise", none, "NOISE"⟩,
   ⟨"seed", none, "SEED"⟩]

/-- Arguments of a subcommand sorted into option values (last one wins), switches and
    positionals, in their order. -/
structure Sorted where
  values : List (String × String) := []
  switches : List String := []
  positionals : List String := []
  help : Bool := false
  verbose : Bool := false

/-- Sorts the arguments of a subcommand, which knows the `valued` options and the
    `switches`; `pending` is an option still waiting for its value, and after `--` every
    argument is positional. -/
def sortArgs (valued : List ValueOption) (switches : List String) (usage : String)
    (pending : Option ValueOption) : List String → Sorted → Except UsageError Sorted
  | [], acc =>
    match pending with
    | some o => .error (usageError ("a value is required for " ++ o.shown ++ " but none was supplied") usage)
    | none => .ok acc
  | a :: rest, acc =>
    match pending with
    | some o => sortArgs valued switches usage none rest { acc with values := acc.values ++ [(o.long, a)] }
    | none =>
      if a = "--" then .ok { acc with positionals := acc.positionals ++ rest }
      else if a = "-h" || a = "--help" then
        sortArgs valued switches usage none rest { acc with help := true }
      else if a = "-v" || a = "--verbose" then
        sortArgs valued switches usage none rest { acc with verbose := true }
      else if a.startsWith "--" then
        let body := (a.drop 2).toString
        let (name, inline) := match body.splitOn "=" with
          | [n] => (n, none)
          | n :: vs => (n, some ("=".intercalate vs))
          | [] => (body, none)
        match valued.find? (·.long = name), inline with
        | some o, some v => sortArgs valued switches usage none rest { acc with values := acc.values ++ [(o.long, v)] }
        | some o, none => sortArgs valued switches usage (some o) rest acc
        | none, none =>
          if switches.contains name then
            sortArgs valued switches usage none rest { acc with switches := acc.switches ++ [name] }
          else .error (usageError ("unexpected argument '" ++ a ++ "' found") usage)
        | none, some _ => .error (usageError ("unexpected argument '" ++ a ++ "' found") usage)
      else match a.toList with
        | '-' :: c :: more =>
          match valued.find? (·.short = some c), more with
          | some o, [] => sortArgs valued switches usage (some o) rest acc
          | some o, _ => sortArgs valued switches usage none rest { acc with values := acc.values ++ [(o.long, String.ofList more)] }
          | none, _ => .error (usageError ("unexpected argument '" ++ a ++ "' found") usage)
        | _ => sortArgs valued switches usage none rest { acc with positionals := acc.positionals ++ [a] }

/-- The last value given for an option. -/
def Sorted.value? (s : Sorted) (long : String) : Option String :=
  (s.values.filter (·.1 = long)).getLast?.map (·.2)

/-- A numeric option's value, read as an unsigned word of `bits` bits, or its default. -/
def Sorted.number (s : Sorted) (o : ValueOption) (bits default : Nat) (usage : String) :
    Except UsageError Nat :=
  match s.value? o.long with
  | none => .ok default
  | some v =>
    match readUnsigned bits v with
    | .ok n => .ok n
    | .error e => .error (usageError ("invalid value '" ++ v ++ "' for " ++ o.shown ++ ": " ++ e) usage)

/-- The `scan` command from its sorted arguments. -/
def scanOf (s : Sorted) : Except UsageError ScanOptions := do
  if s.positionals.isEmpty then
    throw (usageError "the following required arguments were not provided:\n  <IMAGE>..." scanUsage)
  let repeats ← s.number ⟨"repeat", none, "REPEAT"⟩ 32 10 scanUsage
  return { images := s.positionals, config := s.value? "config", quad := s.value? "quad", repeats,
           amex := s.switches.contains "amex", debugOut := s.value? "debug-out" }

/-- The `synth` command from its sorted arguments. -/
def synthOf (s : Sorted) : Except UsageError SynthOptions := do
  if let some p := s.positionals.head? then
    throw (usageError ("unexpected argument '" ++ p ++ "' found") synthUsage)
  let missing := (["number", "out"].filter fun k => (s.value? k).isNone).map fun k =>
    if k = "out" then "  --out <OUT>" else "  --number <NUMBER>"
  unless missing.isEmpty do
    throw (usageError ("the following required arguments were not provided:\n" ++ "\n".intercalate missing)
      synthUsage)
  let width ← s.number ⟨"width", none, "WIDTH"⟩ 32 640 synthUsage
  let height ← s.number ⟨"height", none, "HEIGHT"⟩ 32 480 synthUsage
  let noise ← s.number ⟨"noise", none, "NOISE"⟩ 8 0 synthUsage
  let seed ← s.number ⟨"seed", none, "SEED"⟩ 64 0 synthUsage
  return { number := (s.value? "number").getD "", out := (s.value? "out").getD "",
           expiry := s.value? "expiry", width, height, noise, seed,
           flipped := s.switches.contains "flipped", amex := s.switches.contains "amex" }

end Command

open Command in
/-- Reads the command line: global flags before the subcommand, then the subcommand's
    arguments. -/
def Invocation.parse (args : List String) : Except UsageError Invocation :=
  let rec go (verbose : Bool) : List String → Except UsageError Invocation
    | [] => .error (usageError ("'" ++ program ++
        "' requires a subcommand but one was not provided\n  [subcommands: scan, synth, help]") mainUsage)
    | a :: rest =>
      if a = "-v" || a = "--verbose" then go true rest
      else if a = "-h" || a = "--help" || a = "help" then .ok ⟨verbose, .help mainHelp⟩
      else if a = "scan" then do
        let s ← sortArgs scanValued ["amex"] scanUsage none rest {}
        if s.help then return ⟨verbose, .help scanHelp⟩
        return ⟨verbose || s.verbose, .scan (← scanOf s)⟩
      else if a = "synth" then do
        let s ← sortArgs synthValued ["flipped", "amex"] synthUsage none rest {}
        if s.help then return ⟨verbose, .help synthHelp⟩
        return ⟨verbose || s.verbose, .synth (← synthOf s)⟩
      else if a.startsWith "-" then
        .error (usageError ("unexpected argument '" ++ a ++ "' found") mainUsage)
      else .error (usageError ("unrecognized subcommand '" ++ a ++ "'") mainUsage)
  go false args

/-! ## Values on the command line -/

/-- Reads a decimal number as a double, correctly rounded: an optional sign, then digits
    with at most one point and at least one digit, and an optional exponent; or `inf`,
    `infinity` or `nan` in any case. -/
def readDouble (s : String) : Except String Float := do
  if s.isEmpty then throw "cannot parse float from empty string"
  let (negative, body) :=
    if s.startsWith "-" then (true, (s.drop 1).toString)
    else if s.startsWith "+" then (false, (s.drop 1).toString) else (false, s)
  let sign (x : Float) : Float := if negative then -x else x
  let lower := body.toLower
  if lower = "inf" || lower = "infinity" then return sign (1.0 / 0.0)
  if lower = "nan" then return (0.0 / 0.0)
  let (mant, expPart) := match body.splitOn "e" with
    | [m] => match m.splitOn "E" with
      | [m'] => (m', none)
      | [m', e] => (m', some e)
      | _ => (m, some "")
    | [m, e] => (m, some e)
    | _ => (body, some "")
  let (whole, frac) ← match mant.splitOn "." with
    | [w] => pure (w, "")
    | [w, f] => pure (w, f)
    | _ => throw "invalid float literal"
  unless whole.all Char.isDigit && frac.all Char.isDigit && !(whole.isEmpty && frac.isEmpty) do
    throw "invalid float literal"
  let exp : Int ← match expPart with
    | none => pure 0
    | some e =>
      let (eneg, edigits) :=
        if e.startsWith "-" then (true, (e.drop 1).toString)
        else if e.startsWith "+" then (false, (e.drop 1).toString) else (false, e)
      if edigits.isEmpty || !edigits.all Char.isDigit then throw "invalid float literal"
      let n : Int := edigits.foldl (fun acc c => acc * 10 + (c.toNat - 48)) 0
      pure (if eneg then -n else n)
  let digits := (whole ++ frac).foldl (fun acc c => acc * 10 + (c.toNat - 48)) 0
  let e := exp - frac.length
  return sign (if e ≥ 0 then Float.ofScientific digits false e.toNat
    else Float.ofScientific digits true (-e).toNat)

/-- The card from a corner list `x1,y1,…,x4,y4` in any corner order. -/
def Quad.ofCornerText (text : String) : Except Failure Quad := do
  let values ← match (text.splitOn ",").mapM (fun v => readDouble v.trimAscii.toString) with
    | .ok vs => pure vs
    | .error e => throw { message := "Invalid corner list: " ++ text, causes := [e] }
  match values with
  | [x1, y1, x2, y2, x3, y3, x4, y4] => return Quad.ofUnordered [⟨x1, y1⟩, ⟨x2, y2⟩, ⟨x3, y3⟩, ⟨x4, y4⟩]
  | vs => throw { message := "Expected 8 comma-separated numbers, got " ++ toString vs.length }

/-- Month and year of an expiry written `MM/YY`, each an unsigned 32-bit number. -/
def expiryOfText (text : String) : Except Failure (Nat × Nat) :=
  let fail : Failure := { message := "Expiry must be MM/YY, got " ++ text }
  match text.splitOn "/" with
  | m :: rest =>
    match Command.readUnsigned 32 m, Command.readUnsigned 32 ("/".intercalate rest) with
    | .ok month, .ok year => if rest.isEmpty then .error fail else .ok (month, year)
    | _, _ => .error fail
  | [] => .error fail

/-- Settings read from a settings file's text and checked. -/
def ScanConfig.load (text : String) : Except ConfigError ScanConfig := do
  let c ← (ScanConfig.readText text).mapError ConfigError.parse
  c.validate
  return c

end CardOcr
