import BuildPlan.Tool.Lines
import BuildPlan.Tool.Names

/-!
# Small tools

`true`, `false`, `echo`, `printf`, `test`, `[`, `sleep`, `uname`, `tty`, `printenv`, `which` and `kill`.

Several of them are builtins of the standard shell too. As tools of their own they word their complaints
differently, and `echo` looks for escapes only when it is asked to.
-/

namespace BuildPlan

open Shell (Step)

namespace Tool

/-- Do nothing, with success. -/
def true_ : Tool := fun _ _ => setStatus 0

/-- Do nothing, without success. -/
def false_ : Tool := fun _ _ => setStatus 1

/-! ### Printing -/

/-- The number that hexadecimal digits spell. -/
def hexadecimal (digits : List Char) : Nat := Shell.Decimal.valueIn 16 digits

/-- A text with its escapes replaced, and whether `\c` cut it short. The number bounds its length. -/
def spelledOut : Nat → List Char → List Char × Bool
  | 0, _ => ([], false)
  | _ + 1, [] => ([], false)
  | bound + 1, '\\' :: c :: rest =>
    let goOn (c : Char) (rest : List Char) : List Char × Bool :=
      let (more, cut) := spelledOut bound rest
      (c :: more, cut)
    if c = 'c' then ([], true)
    else if c = 'e' then goOn '\x1b' rest
    else if c = 'x' then
      let digits := (rest.take 2).takeWhile (Shell.Decimal.isDigitIn 16)
      if digits.isEmpty then goOn '\\' (c :: rest)
      else goOn (Char.ofNat (hexadecimal digits)) (rest.drop digits.length)
    else if c = '0' then
      let digits := (rest.take 3).takeWhile Shell.Printing.isOctal
      goOn (Shell.Printing.octal digits) (rest.drop digits.length)
    else if Shell.Printing.isOctal c then
      let digits := ((c :: rest).take 3).takeWhile Shell.Printing.isOctal
      goOn (Shell.Printing.octal digits) ((c :: rest).drop digits.length)
    else
      match Shell.Printing.letterEscape c with
      | some e => goOn e rest
      | none => goOn '\\' (c :: rest)
  | bound + 1, c :: rest =>
    let (more, cut) := spelledOut bound rest
    (c :: more, cut)

/-- The word holds options of `echo`. -/
def isEchoOption : List Char → Bool
  | '-' :: c :: cs => (c :: cs).all fun c => ['n', 'e', 'E'].contains c
  | _ => false

def echo : Tool := fun name arguments => do
  setStatus 0
  let letters := (arguments.takeWhile isEchoOption).flatMap fun w => w.drop 1
  let text := Letters.spaced (arguments.dropWhile isEchoOption)
  let reads := (letters.filter (· ≠ 'n')).getLast? = some 'e'
  let (text, isCut) := if reads then spelledOut (text.length + 1) text else (text, false)
  say name (if isCut || letters.contains 'n' then text else text ++ ['\n'])

/-- A complaint about a number, in the words of the tool. -/
def numberComplaint (text : List Char) : List Char :=
  let reworded (ending new : String) : Option (List Char) :=
    if (": " ++ ending).toList.isSuffixOf text then
      some (inQuotes (text.take (text.length - ending.length - 2)) ++ ": ".toList ++ new.toList)
    else none
  (reworded "expected numeric value" "expected a numeric value").getD
    ((reworded "not completely converted" "value not completely converted").getD
      ((reworded "Numerical result out of range" "Numerical result out of range").getD text))

/-- Print a format filled in. -/
def printf : Tool := fun name arguments => do
  setStatus 0
  let words := if arguments.head? = some ['-', '-'] then arguments.drop 1 else arguments
  match words with
  | [] => misused name "missing operand".toList
  | format :: rest =>
    let f := Shell.Printing.printf format rest
    f.complaints.forM fun c => warn name (numberComplaint c)
    say name f.printed.reverse
    if !f.complaints.isEmpty then setStatus 1
    else if !f.takes && !f.isCut then
      if let some w := f.arguments.head? then
        warn name ("warning: ignoring excess arguments, starting with ".toList ++ inQuotes w)

/-! ### Testing -/

/-- A complaint about a condition, in the words of the tool. -/
def conditionComplaint (text : List Char) : List Char :=
  match Letters.after? "Illegal number: ".toList text with
  | some w => "invalid integer ".toList ++ inQuotes w
  | none => text

def test : Tool := fun name words => do
  match Shell.Condition.holds (← Shell.Builtin.filesAround) words with
  | .ok answer => setStatus (if answer then 0 else 1)
  | .error why => refuse name (conditionComplaint why) 2

/-- Decide a condition in brackets. -/
def bracket : Tool := fun name words =>
  if words.getLast? = some [']'] then test name words.dropLast
  else refuse name "missing ']'".toList 2

/-! ### The system around -/

/-- The seconds that a text stands for, rounded up. -/
def secondsOf? (text : List Char) : Option Nat :=
  let factor : Char → Option Nat
    | 's' => some 1
    | 'm' => some 60
    | 'h' => some 3600
    | 'd' => some 86400
    | _ => none
  let (digits, scale) := match text.getLast?.bind factor with
    | some n => (text.dropLast, n)
    | none => (text, 1)
  match Tenths.ofText? digits with
  | some t =>
    if t.digits < 0 then none
    else
      let unit := Nat.pow 10 t.places
      some ((t.digits.toNat * scale + unit - 1) / unit)
  | none => if text = "infinity".toList then some 1000000000 else none

/-- Let time pass. -/
def sleep : Tool := fun name arguments => do
  setStatus 0
  let a ← options name [] arguments
  if a.operands.isEmpty then misused name "missing operand".toList
  let bad := a.operands.filter fun w => (secondsOf? w).isNone
  bad.forM fun w => warn name ("invalid time interval ".toList ++ inQuotes w)
  if !bad.isEmpty then
    hint name
    finish 1
  let seconds := (a.operands.filterMap secondsOf?).foldl (· + ·) 0
  Step.modifyWorld fun w => { w with time := w.time + seconds }

/-- Print the name of the system. -/
def uname : Tool := fun name arguments => do
  setStatus 0
  let a ← options name [⟨'s', "kernel-name", false⟩, ⟨'o', "operating-system", false⟩,
    ⟨'m', "machine", false⟩, ⟨'p', "processor", false⟩, ⟨'i', "hardware-platform", false⟩] arguments
  if let some w := a.operands.head? then misused name ("extra operand ".toList ++ inQuotes w)
  let machine := if a.has 'm' || a.has 'p' || a.has 'i' then ["x86_64".toList] else []
  let kernel := if a.has 's' || a.options.isEmpty then ["Linux".toList] else []
  let whole := if a.has 'o' then ["GNU/Linux".toList] else []
  sayLines name [Letters.spaced (kernel ++ machine ++ whole)]

/-- Print the name of the terminal, of which there is none. -/
def tty : Tool := fun name arguments => do
  let a ← options name [⟨'s', "silent", false⟩] arguments false 2
  setStatus 1
  if !a.has 's' then sayLines name ["not a tty".toList]

/-- A variable with its value. -/
def binding (v : List Char × List Char) : List Char := v.1 ++ '=' :: v.2

/-- Print variables that programs are given. -/
def printenv : Tool := fun name arguments => do
  setStatus 0
  let a ← options name [⟨'0', "null", false⟩] arguments true 2
  let variables_ := (← Step.session).environment
  if a.operands.isEmpty then sayLines name (variables_.map binding)
  else
    let values := a.operands.map fun n => variables_.lookup n
    sayLines name (values.filterMap id)
    setStatus (if values.all Option.isSome then 0 else 1)

def which : Tool := fun name arguments => do
  let a ← options name [⟨'a', "", false⟩, ⟨'s', "", false⟩] arguments true 2
  let directories := (← Step.session).searchPath
  let places ← a.operands.mapM fun w => do
    let candidates := if w.contains '/' then [w] else directories.map fun d => Shell.Programs.inside d w
    candidates.filterM fun path => do
      match ← Step.entryAt? path with
      | some (.file content mode) => return (Entry.file content mode).grants Entry.runBit
      | _ => return false
  setStatus (if a.operands.isEmpty || places.any List.isEmpty then 1 else 0)
  if !a.has 's' then sayLines name (places.flatMap fun ps => if a.has 'a' then ps else ps.take 1)

/-! ### Signals -/

/-- Send a signal to processes. -/
def kill : Tool := fun name arguments => do
  setStatus 0
  let (signal, words) := match arguments with
    | ['-', 's'] :: text :: rest => (Signal.ofText? text, rest)
    | ('-' :: text) :: rest => (Signal.ofText? text, rest)
    | rest => (some Signal.terminate, rest)
  match signal with
  | none => refuse name ("unknown signal ".toList ++ (arguments.headD []).drop 1)
  | some signal =>
    words.forM fun w => do
      match Shell.Decimal.digits? w with
      | none =>
        warn name ("failed to parse argument: ".toList ++ inQuotes w)
        setStatus 1
      | some process =>
        if !(← Step.send process signal) then
          warn name ("(".toList ++ w ++ "): No such process".toList)
          setStatus 1

example : (spelledOut 9 "a\\x41\\tb".toList).1 = "aA\tb".toList := by decide
example : secondsOf? "0.5".toList = some 1 ∧ secondsOf? "x".toList = none := by decide

end Tool

end BuildPlan
