import BuildPlan.Shell.Decimal
import BuildPlan.Tool.Files

/-!
# Changing permission bits

`chmod` changes the permission bits of files. Directories have none, so that it leaves them as they are.

* `ModeChange.ofText?` reads a change: octal digits, or clauses such as `u+x,go=r`.
* `ModeChange.apply` gives the bits afterwards.
-/

namespace BuildPlan

open Shell (Step)

namespace Tool

/-- What a clause does with bits. -/
inductive ModeSign where
  | plus
  | minus
  | equal
deriving DecidableEq

/-- The bits that a clause is about. -/
inductive ModeBits where
  | letters (cs : List Char)
  /-- Those of one group, seen as an octal digit so many bits up. -/
  | group (shift : Nat)
deriving DecidableEq

structure ModeClause where
  /-- The bits of the groups it is about, none if it names no group. -/
  who : Nat
  sign : ModeSign
  what : ModeBits
deriving DecidableEq

/-- A change of permission bits. -/
inductive ModeChange where
  | bits (n : Nat)
  | clauses (cs : List ModeClause)
deriving DecidableEq

namespace ModeChange

def allBits : Nat := 0o7777

/-- The bits of the groups that letters name. -/
def groupBits (cs : List Char) : Nat :=
  cs.foldl (fun n c => n ||| match c with
    | 'u' => 0o4700
    | 'g' => 0o2070
    | 'o' => 0o1007
    | _ => allBits) 0

def sign? : Char → Option ModeSign
  | '+' => some .plus
  | '-' => some .minus
  | '=' => some .equal
  | _ => none

def bitLetters : List Char := ['r', 'w', 'x', 'X', 's', 't']

/-- The place of a group among the bits. -/
def groupShift? : Char → Option Nat
  | 'u' => some 6
  | 'g' => some 3
  | 'o' => some 0
  | _ => none

/-- The actions after the groups of a clause, at most so many. -/
def actions (who : Nat) : Nat → List Char → Option (List ModeClause)
  | 0, _ => none
  | _ + 1, [] => some []
  | bound + 1, c :: rest => do
    let sign ← sign? c
    match rest.head?.bind groupShift? with
    | some shift => return ⟨who, sign, .group shift⟩ :: (← actions who bound (rest.drop 1))
    | none =>
      let letters := rest.takeWhile bitLetters.contains
      return ⟨who, sign, .letters letters⟩ :: (← actions who bound (rest.drop letters.length))

/-- The clauses that a text between commas spells. -/
def clausesOf (text : List Char) : Option (List ModeClause) :=
  let who := text.takeWhile fun c => ['u', 'g', 'o', 'a'].contains c
  let rest := text.drop who.length
  if rest.isEmpty then none else actions (groupBits who) (rest.length + 1) rest

def ofText? (text : List Char) : Option ModeChange :=
  if text.isEmpty then none
  else if text.all (Shell.Decimal.isDigitIn 8) then
    let n := Shell.Decimal.valueIn 8 text
    if n ≤ allBits then some (.bits n) else none
  else ((text.splitOn ',').mapM clausesOf).map fun cs => .clauses cs.flatten

/-- The bits that letters stand for, next to other bits. -/
def lettersBits (bits : Nat) (cs : List Char) : Nat :=
  cs.foldl (fun n c => n ||| match c with
    | 'r' => 0o444
    | 'w' => 0o222
    | 'x' => 0o111
    | 'X' => if bits &&& 0o111 = 0 then 0 else 0o111
    | 's' => 0o6000
    | 't' => 0o1000
    | _ => 0) 0

/-- The bits after a clause. A clause that names no group leaves alone what the mask holds back. -/
def applyClause (mask bits : Nat) (c : ModeClause) : Nat :=
  let all := match c.what with
    | .letters cs => lettersBits bits cs
    | .group shift => ((bits >>> shift) &&& 7) * 0o111
  let mine := all &&& (if c.who = 0 then allBits ^^^ mask else c.who)
  match c.sign with
  | .plus => bits ||| mine
  | .minus => bits &&& (allBits ^^^ mine)
  | .equal => (bits &&& (if c.who = 0 then 0 else allBits ^^^ c.who)) ||| mine

def apply (mask bits : Nat) : ModeChange → Nat
  | .bits n => n
  | .clauses cs => cs.foldl (applyClause mask) bits

example : (ofText? "u+x,go=r".toList).map (apply 0o022 0o600) = some 0o744 := by decide
example : (ofText? "+w".toList).map (apply 0o022 0o444) = some 0o644 := by decide
example : ofText? "u".toList = none ∧ ofText? "999".toList = none := by decide

end ModeChange

def modeLetters (bits : Nat) : List Char :=
  let one (shift special : Nat) (with_ without : Char) : List Char :=
    let b := (bits >>> shift) &&& 7
    [if b &&& 4 = 0 then '-' else 'r', if b &&& 2 = 0 then '-' else 'w',
      if bits &&& special = 0 then (if b &&& 1 = 0 then '-' else 'x')
      else if b &&& 1 = 0 then without else with_]
  one 6 0o4000 's' 'S' ++ one 3 0o2000 's' 'S' ++ one 0 0o1000 't' 'T'

/-- Bits as four octal digits. -/
def modeDigits (bits : Nat) : List Char :=
  let ds := Nat.toDigits 8 bits
  List.replicate (4 - ds.length) '0' ++ ds

/-- Change the bits of the file at a path. -/
def changeMode (name : List Char) (a : Arguments) (change : ModeChange) (isOption : Bool)
    (path : List Char) (loc : Location) : Step Unit := do
  let w ← Step.world
  match w.tree.at? loc with
  | some (.file content old) =>
    if !w.isOwn loc then
      if !a.has 'f' then
        warn name ("changing permissions of ".toList ++ inQuotes path ++
          ": Operation not permitted".toList)
      setStatus 1
    else
      let new := change.apply (← Step.session).mask old
      Step.modifyTree fun t => t.put loc (.file content new)
      let spelled (bits : Nat) : List Char := modeDigits bits ++ " (".toList ++ modeLetters bits ++ [')']
      if old = new then
        if a.has 'v' then
          say name ("mode of ".toList ++ inQuotes path ++ " retained as ".toList ++ spelled new ++ ['\n'])
      else if a.has 'v' || a.has 'c' then
        say name ("mode of ".toList ++ inQuotes path ++ " changed from ".toList ++ spelled old ++
          " to ".toList ++ spelled new ++ ['\n'])
      let naive := change.apply 0 old
      if isOption && new &&& (ModeChange.allBits ^^^ naive) ≠ 0 then
        warn name (path ++ ": new permissions are ".toList ++ modeLetters new ++ ", not ".toList ++
          modeLetters naive)
        setStatus 1
  | _ => return

/-- The word is a mode although it starts with a hyphen. -/
def isModeOption : List Char → Bool
  | '-' :: c :: _ =>
    ['r', 'w', 'x', 'X', 's', 't', 'u', 'g', 'o', 'a', ',', '+', '=', '0', '1', '2', '3', '4', '5', '6',
      '7'].contains c
  | _ => false

/-- Change permission bits. -/
def chmod : Tool := fun name arguments => do
  setStatus 0
  let modes := (arguments.takeWhile (· ≠ ['-', '-'])).filter isModeOption
  let others := (arguments.takeWhile (· ≠ ['-', '-'])).filter (!isModeOption ·) ++
    arguments.dropWhile (· ≠ ['-', '-'])
  let a ← options name
    [⟨'R', "recursive", false⟩, ⟨'f', "silent", false⟩, ⟨'c', "changes", false⟩,
      ⟨'v', "verbose", false⟩] others
  let (text, files) := match modes, a.operands with
    | [], text :: files => (text, files)
    | [], [] => ([], [])
    | ms, files => ([','].intercalate ms, files)
  if modes.isEmpty && a.operands.isEmpty then misused name "missing operand".toList
  if files.isEmpty then misused name ("missing operand after ".toList ++ inQuotes text)
  match ModeChange.ofText? text with
  | none => misused name ("invalid mode: ".toList ++ inQuotes text)
  | some change =>
    files.forM fun path => do
      match ← found path with
      | .error o =>
        if !a.has 'f' then cannot name "cannot access " path o else setStatus 1
      | .ok (loc, _) =>
        let tree := (← Step.world).tree
        changeMode name a change (!modes.isEmpty) path loc
        if a.has 'R' then
          (pathsBelow tree (deepest tree) path loc).forM fun (inner, l) =>
            changeMode name a change (!modes.isEmpty) inner l

example : String.ofList (modeLetters 0o4754) = "rwsr-xr--" := by decide

end Tool

end BuildPlan
