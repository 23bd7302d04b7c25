import BuildPlan.Shell.Decimal

/-!
# Printing from a script

The two builtins that print, `echo` and `printf`, and the escapes they know.

* `Printing.unescape` replaces the escapes of `echo`.
* `Printing.echo` is what `echo` prints.
* `Printing.printf` is what `printf` prints and complains about: the format is used again as long as
  arguments are left.
-/

namespace BuildPlan

namespace Shell

namespace Printing

/-! ### Escapes -/

def isOctal (c : Char) : Bool := Decimal.isDigitIn 8 c

/-- The byte that octal digits spell. -/
def octal (digits : List Char) : Char := Char.ofNat (Decimal.valueIn 8 digits % 256)

/-- The character that a letter after a backslash stands for. -/
def letterEscape : Char → Option Char
  | 'a' => some '\x07'
  | 'b' => some '\x08'
  | 'e' => some '\x1b'
  | 'f' => some '\x0c'
  | 'n' => some '\n'
  | 'r' => some '\r'
  | 't' => some '\t'
  | 'v' => some '\x0b'
  | '\\' => some '\\'
  | _ => none

/-- The escape at the start of a text, the backslash dropped, and what comes after it. What is no
escape is a backslash. -/
def escape (cs : List Char) : Char × List Char :=
  let digits := (cs.take 3).takeWhile isOctal
  if !digits.isEmpty then (octal digits, cs.drop digits.length)
  else
    match cs with
    | c :: rest =>
      match letterEscape c with
      | some e => (e, rest)
      | none => ('\\', cs)
    | [] => ('\\', [])

/-- A text with its escapes replaced, and whether `\c` cut it short. The number bounds its length. -/
def unescapeWithin : Nat → List Char → List Char × Bool
  | 0, _ => ([], false)
  | _ + 1, [] => ([], false)
  | bound + 1, '\\' :: rest =>
    match rest with
    | 'c' :: _ => ([], true)
    | '0' :: after =>
      let digits := (after.take 3).takeWhile isOctal
      let (more, cut) := unescapeWithin bound (after.drop digits.length)
      (octal digits :: more, cut)
    | rest =>
      let (c, after) := escape rest
      let (more, cut) := unescapeWithin bound after
      (c :: more, cut)
  | bound + 1, c :: rest =>
    let (more, cut) := unescapeWithin bound rest
    (c :: more, cut)

/-- A text with the escapes of `echo` replaced, and whether `\c` cut it short. -/
def unescape (cs : List Char) : List Char × Bool := unescapeWithin (cs.length + 1) cs

def echo (arguments : List (List Char)) : List Char :=
  let (bare, words) := match arguments with
    | ['-', 'n'] :: rest => (true, rest)
    | words => (false, words)
  let (text, cut) := unescape (Letters.spaced words)
  if bare || cut then text else text ++ ['\n']

/-! ### Formats -/

/-- A width or a precision. -/
inductive Amount where
  | fixed (n : Nat)
  /-- As much as an argument says. -/
  | argument
deriving DecidableEq

inductive Part where
  /-- A character that stands for itself. -/
  | text (c : Char)
  | place (flags : List Char) (width : Amount) (precision : Option Amount) (conversion : Char)
  | bad (text : List Char)
deriving DecidableEq

def conversions : List Char :=
  ['s', 'b', 'c', 'd', 'i', 'o', 'u', 'x', 'X', 'e', 'E', 'f', 'F', 'g', 'G', 'a', 'A']

/-- An amount at the start of a text, and what comes after it. -/
def amount (cs : List Char) : Amount × List Char :=
  match cs with
  | '*' :: rest => (.argument, rest)
  | cs => (.fixed (Decimal.natural (cs.takeWhile Char.isDigit)), cs.dropWhile Char.isDigit)

/-- The place for an argument that a percent sign starts, and what comes after it. -/
def directive (cs : List Char) : Part × List Char :=
  let isFlag (c : Char) : Bool := ['#', '-', '+', ' ', '0'].contains c
  let flags := cs.takeWhile isFlag
  let (width, rest) := amount (cs.dropWhile isFlag)
  let (precision, rest) := match rest with
    | '.' :: rest => let (a, rest) := amount rest; (some a, rest)
    | rest => (none, rest)
  match rest with
  | [] => (.bad [], [])
  | c :: after =>
    if conversions.contains c then (.place flags width precision c, after)
    else (.bad (cs.take (cs.length - after.length)), [])

/-- The parts of a format. The number bounds how many there are. -/
def parts : Nat → List Char → List Part
  | 0, _ => []
  | _ + 1, [] => []
  | bound + 1, '%' :: '%' :: rest => .text '%' :: parts bound rest
  | bound + 1, '%' :: rest =>
    let (part, after) := directive rest
    part :: parts bound after
  | bound + 1, '\\' :: rest =>
    let (c, after) := escape rest
    .text c :: parts bound after
  | bound + 1, c :: rest => .text c :: parts bound rest

/-! ### Numbers -/

/-- Text made as wide as asked for. -/
def padded (flags : List Char) (width : Nat) (text : List Char) : List Char :=
  let blanks := List.replicate (width - text.length) ' '
  if flags.contains '-' then text ++ blanks else blanks ++ text

/-- Digits with a sign before them, made as wide as asked for. -/
def paddedNumber (flags : List Char) (width : Nat) (zeros : Bool) (sign digits : List Char) :
    List Char :=
  if zeros && flags.contains '0' && !flags.contains '-' then
    sign ++ List.replicate (width - sign.length - digits.length) '0' ++ digits
  else padded flags width (sign ++ digits)

def signOf (flags : List Char) (isNegative : Bool) : List Char :=
  if isNegative then ['-'] else if flags.contains '+' then ['+']
  else if flags.contains ' ' then [' '] else []

def atLeast (n : Nat) (digits : List Char) : List Char :=
  List.replicate (n - digits.length) '0' ++ digits

def wholeNumber (flags : List Char) (width : Nat) (precision : Option Nat) (conversion : Char)
    (n : Int) : List Char :=
  let written (base : Nat) (m : Nat) : List Char :=
    if precision = some 0 ∧ m = 0 then [] else atLeast (precision.getD 1) (Nat.toDigits base m)
  if conversion = 'd' ∨ conversion = 'i' then
    paddedNumber flags width precision.isNone (signOf flags (n < 0)) (written 10 n.natAbs)
  else
    let m := (n % 18446744073709551616).toNat
    let alternate := flags.contains '#' && m ≠ 0
    let finish (sign digits : List Char) : List Char :=
      paddedNumber flags width precision.isNone sign digits
    match conversion with
    | 'o' => finish [] (if alternate then '0' :: written 8 m else written 8 m)
    | 'x' => finish (if alternate then ['0', 'x'] else []) (written 16 m)
    | 'X' => finish (if alternate then ['0', 'X'] else []) ((written 16 m).map Char.toUpper)
    | _ => finish [] (written 10 m)

/-- A number with a fraction: a numerator over a power of ten, and its sign. -/
structure Fraction where
  isNegative : Bool := false
  digits : Nat := 0
  /-- The power of ten below it. -/
  scale : Int := 0
  /-- It is past all numbers. -/
  isInfinite : Bool := false
deriving DecidableEq

/-- The fraction at the start of a text, and what comes after it. -/
def fraction (cs : List Char) : Option (Fraction × List Char) :=
  let cs := cs.dropWhile Decimal.isBlank
  let (isNegative, cs) := match cs with
    | '-' :: rest => (true, rest)
    | '+' :: rest => (false, rest)
    | cs => (false, cs)
  let front := cs.takeWhile Char.isDigit
  let rest := cs.dropWhile Char.isDigit
  let (back, rest) := match rest with
    | '.' :: after => (after.takeWhile Char.isDigit, after.dropWhile Char.isDigit)
    | rest => ([], rest)
  if front.isEmpty && back.isEmpty then none
  else
    let n := Decimal.natural (front ++ back)
    let scale : Int := back.length
    let plain : Option (Fraction × List Char) :=
      some ({ isNegative := isNegative, digits := n, scale := scale }, rest)
    match rest with
    | e :: after =>
      if e = 'e' ∨ e = 'E' then
        match Decimal.leading false after with
        | some (k, left) => some ({ isNegative := isNegative, digits := n, scale := scale - k }, left)
        | none => plain
      else plain
    | [] => plain

/-- A numerator over a denominator to the nearest whole number; a half goes to the even neighbour. -/
def nearest (numerator denominator : Nat) : Nat :=
  let q := numerator / denominator
  let r := numerator % denominator
  if 2 * r < denominator then q
  else if 2 * r > denominator then q + 1
  else if q % 2 = 0 then q else q + 1

/-- How many bits a floating-point number keeps, and how far its last bit may lie behind the point. -/
def keptBits : Nat × Nat := (53, 1074)

/-- The number of so many bits that lies nearest to a fraction, as a fraction again. -/
def Fraction.rounded (f : Fraction) : Fraction :=
  let magnitude : Int := (Nat.toDigits 10 f.digits).length - f.scale
  if f.digits = 0 then { f with scale := 0 }
  else if magnitude < -330 then { f with digits := 0, scale := 0 }
  else if 310 < magnitude then { f with isInfinite := true }
  else
    let numerator := f.digits * Nat.pow 10 (-f.scale).toNat
    let denominator := Nat.pow 10 f.scale.toNat
    let shifted (k : Int) : Nat :=
      nearest (numerator * Nat.pow 2 k.toNat) (denominator * Nat.pow 2 (-k).toNat)
    let rough : Int := keptBits.1 + Nat.log2 denominator - Nat.log2 numerator - 1
    let fits (k : Int) : Bool :=
      numerator * Nat.pow 2 k.toNat < denominator * Nat.pow 2 (-k).toNat * Nat.pow 2 keptBits.1
    let k := if fits (rough + 1) then rough + 1 else if fits rough then rough else rough - 1
    let k := min k keptBits.2
    let n := shifted k
    if 0 ≤ k then { f with digits := n * Nat.pow 5 k.toNat, scale := k }
    else
      let n := n * Nat.pow 2 (-k).toNat
      { f with digits := n, scale := 0, isInfinite := decide (Nat.pow 2 1024 ≤ n) }

/-- The numerator over ten to the scale, times ten to the places, to the nearest whole number. -/
def scaled (f : Fraction) (places : Int) : Nat :=
  let k := places - f.scale
  if 0 ≤ k then f.digits * Nat.pow 10 k.toNat else nearest f.digits (Nat.pow 10 (-k).toNat)

/-- A whole number with so many places after the point. -/
def pointed (n places : Nat) (alternate : Bool) : List Char :=
  let ds := atLeast (places + 1) (Nat.toDigits 10 n)
  let front := ds.take (ds.length - places)
  let back := ds.drop (ds.length - places)
  if places = 0 then (if alternate then front ++ ['.'] else front) else front ++ ['.'] ++ back

/-- The power of ten of the first digit when so many digits are kept. -/
def exponent (f : Fraction) (digits : Nat) : Int :=
  if f.digits = 0 then 0
  else
    let rough : Int := (Nat.toDigits 10 f.digits).length - 1 - f.scale
    let n := scaled f (digits - 1 - rough)
    if (Nat.toDigits 10 n).length > digits then rough + 1 else rough

def exponentText (letter : Char) (e : Int) : List Char :=
  letter :: (if e < 0 then '-' else '+') :: atLeast 2 (Nat.toDigits 10 e.natAbs)

/-- The zeros at the end of a fraction dropped, and the point with them. -/
def withoutZeros (cs : List Char) : List Char :=
  if cs.contains '.' then
    let r := cs.reverse.dropWhile (· = '0')
    (match r with
      | '.' :: rest => rest
      | r => r).reverse
  else cs

def fractional (flags : List Char) (width : Nat) (precision : Option Nat) (conversion : Char)
    (f : Fraction) : List Char :=
  let alternate := flags.contains '#'
  let places := precision.getD 6
  let withExponent (places : Nat) (trims : Bool) : List Char :=
    let e := exponent f (places + 1)
    let body := pointed (scaled f (places - e)) places alternate
    (if trims then withoutZeros body else body) ++
      exponentText (if conversion.isUpper then 'E' else 'e') e
  if f.isInfinite then
    padded flags width (signOf flags f.isNegative ++ if conversion.isUpper then "INF".toList else "inf".toList)
  else
  let body := match conversion.toLower with
    | 'e' => withExponent places false
    | 'g' =>
      let digits := max 1 places
      let e := exponent f digits
      if e < -4 ∨ digits ≤ e then withExponent (digits - 1) !alternate
      else
        let kept := (digits - 1 - e).toNat
        let body := pointed (scaled f kept) kept alternate
        if alternate then body else withoutZeros body
    | _ => pointed (scaled f places) places alternate
  paddedNumber flags width true (signOf flags f.isNegative) body

/-! ### Filling in -/

/-- A format while it is filled in. -/
structure Filling where
  arguments : List (List Char)
  /-- What has been printed, last character first. -/
  printed : List Char := []
  complaints : List (List Char) := []
  /-- An argument has been taken since the format was started. -/
  takes : Bool := false
  /-- The rest is not printed. -/
  isCut : Bool := false
  isBad : Bool := false

namespace Filling

def next (f : Filling) : Option (List Char) × Filling :=
  match f.arguments with
  | [] => (none, f)
  | a :: rest => (some a, { f with arguments := rest, takes := true })

def add (f : Filling) (text : List Char) : Filling :=
  { f with printed := text.reverse ++ f.printed }

def complain (f : Filling) (argument : List Char) (why : String) : Filling :=
  { f with complaints := f.complaints ++ [argument ++ ": ".toList ++ why.toList] }

/-- Complain about an argument that is no number, or not all of which is one. -/
def checked (f : Filling) (argument : List Char) (rest : Option (List Char)) : Filling :=
  match rest with
  | none => if argument.isEmpty then f else f.complain argument "expected numeric value"
  | some [] => f
  | some _ => f.complain argument "not completely converted"

/-- A character after a quote stands for its number. -/
def quotedCode? (argument : List Char) : Option Nat :=
  match argument with
  | '\'' :: rest => some ((rest.head?.map Char.toNat).getD 0)
  | '"' :: rest => some ((rest.head?.map Char.toNat).getD 0)
  | _ => none

/-- The whole number that an argument spells. -/
def whole (f : Filling) (isSigned : Bool) (argument : List Char) : Int × Filling :=
  match quotedCode? argument with
  | some n => (n, f)
  | none =>
    match Decimal.leading true argument with
    | none => (0, f.checked argument none)
    | some (n, rest) =>
      let f := f.checked argument (some rest)
      let greatest : Int := if isSigned then Decimal.greatest else 18446744073709551615
      let least : Int := if isSigned then Decimal.least else -18446744073709551615
      if n < least ∨ greatest < n then
        (if n < 0 ∧ isSigned then least else greatest,
          f.complain argument "Numerical result out of range")
      else (n, f)

def fractionOf (f : Filling) (argument : List Char) : Fraction × Filling :=
  match quotedCode? argument with
  | some n => ({ digits := n }, f)
  | none =>
    match fraction argument with
    | none => ({}, f.checked argument none)
    | some (x, rest) =>
      let y := x.rounded
      let f := f.checked argument (some rest)
      if y.isInfinite || (y.digits = 0 && x.digits ≠ 0) then
        (y, f.complain argument "Numerical result out of range")
      else (y, f)

/-- An amount as a number, below zero perhaps. -/
def amountOf (f : Filling) : Amount → Int × Filling
  | .fixed n => (n, f)
  | .argument =>
    let (a, f) := f.next
    f.whole true (a.getD [])

def fill (f : Filling) (part : Part) : Filling :=
  if f.isCut || f.isBad then f
  else
    match part with
    | .text c => f.add [c]
    | .bad [] => { f with complaints := f.complaints ++ ["missing format character".toList], isBad := true }
    | .bad text =>
      { f with
        complaints := f.complaints ++ ['%' :: text ++ ": invalid directive".toList]
        isBad := true }
    | .place flags width precision conversion =>
      let (w, f) := f.amountOf width
      let (precision, f) := match precision with
        | none => (none, f)
        | some a =>
          let (n, f) := f.amountOf a
          (if n < 0 then none else some n.toNat, f)
      let flags := if w < 0 then '-' :: flags else flags
      let w := w.natAbs
      let (argument, f) := f.next
      let a := argument.getD []
      let cut (text : List Char) : List Char := match precision with
        | none => text
        | some n => text.take n
      match conversion with
      | 's' => f.add (padded flags w (cut a))
      | 'b' =>
        let (text, isCut) := unescape a
        { f.add (padded flags w (cut text)) with isCut := isCut }
      | 'c' => f.add (padded flags w [a.headD '\x00'])
      | c =>
        if ['d', 'i'].contains c then
          let (n, f) := f.whole true a
          f.add (wholeNumber flags w precision c n)
        else if ['o', 'u', 'x', 'X'].contains c then
          let (n, f) := f.whole false a
          f.add (wholeNumber flags w precision c n)
        else
          let (x, f) := f.fractionOf a
          f.add (fractional flags w precision c x)

end Filling

/-- Fill a format in as often as there are arguments for, at most so often. -/
def refill (format : List Part) : Nat → Filling → Filling
  | 0, f => f
  | bound + 1, f =>
    let f := format.foldl Filling.fill { f with takes := false }
    if f.arguments.isEmpty || !f.takes || f.isCut || f.isBad then f else refill format bound f

/-- What `printf` prints for a format and its arguments. -/
def printf (format : List Char) (arguments : List (List Char)) : Filling :=
  refill (parts (format.length + 1) format) (arguments.length + 1) { arguments := arguments }

private def printedText (format : String) (arguments : List String) : String :=
  String.ofList (printf format.toList (arguments.map String.toList)).printed.reverse

example : echo ["-n".toList, "a".toList, "b\\tc\\061".toList] = "a b\tc1".toList := by decide +kernel
example : printedText "\\377%s-%d\\n" ["x", "07", "y"] = "ÿx-7\nÿy-0\n" := by decide +kernel
example : printedText "%5s|%-5s|%05d" ["ab", "cd", "-42"] = "   ab|cd   |-0042" := by decide +kernel
example : printedText "%.2f %e %g %g" ["3.14159", "1234.5", "0.0001", "1e7"] =
    "3.14 1.234500e+03 0.0001 1e+07" := by decide +kernel

end Printing

end Shell

end BuildPlan
