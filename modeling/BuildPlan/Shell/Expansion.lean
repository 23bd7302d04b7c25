import BuildPlan.Shell.Lines

/-!
# Expanding words

* `Expansion.bits` gives the bits of a word: parameters, the output of scripts and numbers are replaced.
* `Expansion.fields` gives the fields of words, with the paths that they fit.
* `Expansion.single` gives the text of a word that is not cut, `Expansion.pattern` the pattern it is.

A parameter without a value is an error if the option says so. A tilde at the start of a word stands
for the home directory.
-/

namespace BuildPlan

namespace Shell

open Step (session modifySession setStatus)

namespace Expansion

/-- Give a variable a value, unless its value stays as it is. -/
def assign (name value : List Char) : Step Unit := do
  let s ← session
  if (s.look? name).any fun v => v.isConstant then Step.fail (name ++ ": is read only".toList)
  else modifySession fun s => s.assign name value

/-- The bits of a parameter that has a value. -/
def parameterBits (s : Session) (quoted : Bool) (name value : List Char) : List Bit :=
  let origin : Origin := if quoted then .quoted else .replaced
  if name = ['@'] ∨ (name = ['*'] ∧ quoted = false) then Bit.ofTexts origin s.arguments
  else Bit.ofText origin value

/-- The bits of a parameter without a value. -/
def absentBits (s : Session) (quoted : Bool) (name : List Char) : Step (List Bit) :=
  if s.has 'u' then Step.fail (name ++ ": parameter not set".toList)
  else return if quoted then [.present] else []

/-- The home directories of the users that every system has. -/
def homes : List (String × String) :=
  [("root", "/root"), ("daemon", "/usr/sbin"), ("bin", "/bin"), ("sys", "/dev"), ("sync", "/bin"),
    ("games", "/usr/games"), ("man", "/var/cache/man"), ("lp", "/var/spool/lpd"),
    ("mail", "/var/mail"), ("news", "/var/spool/news"), ("uucp", "/var/spool/uucp"),
    ("proxy", "/bin"), ("www-data", "/var/www"), ("backup", "/var/backups"), ("list", "/var/list"),
    ("irc", "/run/ircd"), ("nobody", "/nonexistent")]

/-- The bits of text that starts with a tilde: the home directory of the user that is named, or of the
one whose shell it is, in place of the tilde and the name. A name that goes on after the text is
nobody's. -/
def homed? (s : Session) (goesOn : Bool) (cs : List Char) : Option (List Bit) :=
  match cs with
  | '~' :: rest =>
    let name := rest.takeWhile (· ≠ '/')
    let after := rest.dropWhile (· ≠ '/')
    let home? :=
      if goesOn && after.isEmpty then none
      else if name.isEmpty then s.boundValue? "HOME".toList
      else (homes.lookup (Letters.toText name)).map String.toList
    home?.map fun home => home.map (.char .quoted) ++ Bit.ofText .script after
  | _ => none

def textBits (quoted : Bool) (cs : List Char) : List Bit :=
  Bit.ofText (if quoted then .quoted else .script) cs

/-- The bits of the text of an assignment, where a colon starts a new path. -/
def pathListBits (s : Session) (isFirst goesOn : Bool) (cs : List Char) : List Bit :=
  let parts := cs.splitOn ':'
  [Bit.char .script ':'].intercalate (parts.zipIdx.map fun (part, i) =>
    if i = 0 ∧ !isFirst then Bit.ofText .script part
    else (homed? s (goesOn && i + 1 = parts.length) part).getD (Bit.ofText .script part))

variable (p : Powers)

/-- The output of a script, without the line ends after it. -/
def output (body : Option Script) : Step (List Char) := do
  let (front, back) ← Step.addPipe
  let ending ← Step.fork do
    modifySession fun s => s.lead 1 (some back)
    setStatus 0
    Lines.asSubshell p do
      match body with
      | some c => p.run { isLast := true } c
      | none => return
  let status ← Step.await ending
  modifySession fun s => { s with innerStatus := status }
  return Letters.withoutLineEnds ((← Step.drain front).filter (· ≠ '\x00'))

def expressionFault {α : Type} (text : List Char) (why : String) : Step α :=
  Step.fail ("arithmetic expression: ".toList ++ why.toList ++ ": \"".toList ++ text ++ ['"'])

/-- The value of an expression. What it assigns is assigned. -/
def number (text : List Char) : Step Int64 := do
  let s ← session
  match Expression.read text with
  | .error why => expressionFault text why
  | .ok e =>
    match e.evaluate.run { look := fun name => (s.value? name).getD [] } with
    | .error .divisionByZero => expressionFault text "division by zero"
    | .error (.notNumber value) => Step.fail ("Illegal number: ".toList ++ value)
    | .ok (n, scope) =>
      scope.assigned.reverse.forM fun (name, value) => assign name (Letters.ofInt value.toInt)
      return n

/-- The text of a word that is not cut. -/
def single (tildes : Tildes) (word : List Piece) : Step (List Char) := do
  let bs ← p.expand tildes word
  return Bit.whole (← session).between bs

def pattern (word : List Piece) : Step Pattern := return Bit.pattern (← p.expand .start word)

/-- How the tildes of a word inside something that is replaced are taken. -/
def innerTildes (tildes : Tildes) : Tildes := if tildes = .colons then .colons else .start

/-- The bits of a word inside something that is replaced. -/
def inner (tildes : Tildes) (word : List Piece) : Step (List Bit) :=
  return Bit.asReplaced (← p.expand (innerTildes tildes) word)

/-- The bits of a parameter with its selection. -/
def parameter (tildes : Tildes) (quoted : Bool) (name : List Char) (selection : Selection)
    (word : List Piece) : Step (List Bit) := do
  let s ← session
  let value? := s.value? name
  let taken (nullToo : Bool) : Option (List Char) :=
    match value? with
    | some [] => if nullToo then none else some []
    | other => other
  let origin : Origin := if quoted then .quoted else .replaced
  match selection with
  | .unknown => Step.fail "Bad substitution".toList
  | .value =>
    match value? with
    | some value => return parameterBits s quoted name value
    | none => absentBits s quoted name
  | .length =>
    match value? with
    | some value => return Bit.ofText origin (Letters.ofNat value.length)
    | none =>
      if s.has 'u' then absentBits s quoted name
      else return Bit.ofText origin ['0']
  | .orElse nullToo =>
    match taken nullToo with
    | some value => return parameterBits s quoted name value
    | none => inner p tildes word
  | .ifSet nullToo =>
    match taken nullToo with
    | some _ => inner p tildes word
    | none => return if quoted then [.present] else []
  | .orAssign nullToo =>
    match taken nullToo with
    | some value => return parameterBits s quoted name value
    | none =>
      if !isName name then Step.fail (name ++ ": bad variable name".toList)
      else
        let value ← single p .start word
        assign name value
        return Bit.ofText origin value
  | .orComplain nullToo =>
    match taken nullToo with
    | some value => return parameterBits s quoted name value
    | none =>
      let text ← single p .start word
      Step.fail (name ++ ": ".toList ++
        if word.isEmpty then
          (if nullToo then "parameter not set or null" else "parameter not set").toList
        else text)
  | .without fromEnd longest =>
    match value? with
    | none => absentBits s quoted name
    | some value =>
      let shape ← pattern p word
      return Bit.ofText origin (shape.trimmed fromEnd longest value)

def piece (tildes : Tildes) : Piece → Step (List Bit)
  | .text quoted cs => return textBits quoted cs
  | .parameter quoted name selection word => parameter p tildes quoted name selection word
  | .output quoted body => do
    return Bit.ofText (if quoted then .quoted else .replaced) (← output p body)
  | .number quoted expression => do
    let text ← single p .none expression
    let n ← number text
    return Bit.ofText (if quoted then .quoted else .replaced) (Letters.ofInt n.toInt)

/-- The bits of the pieces of a word, from one of them on. The flag says that it is the first. -/
def bitsFrom (tildes : Tildes) : Bool → List Piece → Step (List Bit)
  | _, [] => return []
  | isFirst, .text false cs :: rest => do
    let s ← session
    let bs := match tildes with
      | .colons => pathListBits s isFirst (!rest.isEmpty) cs
      | .start => if isFirst then (homed? s (!rest.isEmpty) cs).getD (textBits false cs)
        else textBits false cs
      | .none => textBits false cs
    return bs ++ (← bitsFrom tildes false rest)
  | _, one :: rest => do
    let bs ← piece p tildes one
    return bs ++ (← bitsFrom tildes false rest)

def bits (tildes : Tildes) (word : List Piece) : Step (List Bit) := bitsFrom p tildes true word

def fieldsOf (word : List Piece) : Step (List (List Char)) := do
  let bs ← bits p .start word
  let s ← session
  let fs := Bit.fields s.separators bs
  if s.has 'f' then return fs.map Bit.Field.text
  else
    let t := (← Step.world).treeFrom s.directory
    return fs.flatMap (Bit.paths t)

def fields (words : List (List Piece)) : Step (List (List Char)) := words.flatMapM (fieldsOf p)

/-- The text of the value of an assignment. -/
def assigned (word : List Piece) : Step (List Char) := do
  let bs ← bits p .colons word
  return Bit.whole (← session).between bs

/-- The text of a word that is not cut, a tilde at its start replaced. -/
def target (word : List Piece) : Step (List Char) := do
  let bs ← bits p .start word
  return Bit.whole (← session).between bs

end Expansion

end Shell

end BuildPlan
