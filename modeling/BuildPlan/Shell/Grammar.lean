import BuildPlan.Shell.Pieces

/-!
# The grammar of scripts

A script is read command by command. `Portion` names what can be asked for: a line of commands, the
body of a compound command, or a single command.

* `Grammar.token` gives the next token. `Checks` says what it has to look out for: line ends that mean
  nothing here, reserved words, and words that stand for other text.
* `Grammar.portion` reads a portion, `Grammar.line` a line of commands at the top of a script.

A reserved word is one only where a command can start. The text of here-documents is read at the next
line end.
-/

namespace BuildPlan

namespace Shell

namespace Grammar

/-- What the reader of a token looks out for. -/
structure Checks where
  lineEnds : Bool := false
  reserved : Bool := false
  /-- Words may stand for other text. -/
  aliases : Bool := false
  /-- The word is the mark of a here-document. -/
  mark : Bool := false

/-- All that can be looked out for where a command starts. -/
def Checks.command : Checks := { reserved := true, aliases := true }

/-- The same, after line ends that mean nothing. -/
def Checks.body : Checks := { lineEnds := true, reserved := true, aliases := true }

/-- A part of a script that can be asked for. -/
inductive Portion where
  /-- The commands up to a line end. -/
  | line
  /-- The commands up to a sign that closes them, at least one. -/
  | body
  /-- The commands up to a sign that closes them, perhaps none. -/
  | optionalBody
  | command
deriving DecidableEq

/-! ### Here-documents -/

/-- The first line of a text, without its end, and the text after it. Nothing comes back at the end of
the text. -/
def firstLine : List Char → Option (List Char × List Char)
  | [] => none
  | text => some (text.takeWhile (· ≠ '\n'), (text.dropWhile (· ≠ '\n')).drop 1)

/-- The raw text of a here-document, what comes after it, and how many lines there are. A line that goes
on with the one before, whose end a backslash quotes, is not looked at. -/
def rawDocument (mark : List Char) (stripsTabs literal : Bool) :
    Nat → Bool → List Char → List Char × List Char × Nat
  | 0, _, text => ([], text, 0)
  | bound + 1, goesOn, text =>
    match firstLine text with
    | none => ([], [], 0)
    | some (line, after) =>
      let line := if stripsTabs && !goesOn then line.dropWhile (· = '\t') else line
      if line = mark ∧ !goesOn then ([], after, 1)
      else
        let ended := text.contains '\n'
        let isQuoted := !literal && (line.reverse.takeWhile (· = '\\')).length % 2 == 1
        let (more, rest, n) := rawDocument mark stripsTabs literal bound isQuoted after
        (line ++ (if ended then ['\n'] else []) ++ more, rest, if ended then n + 1 else n)

/-- The text that a word spells when nothing in it is replaced. -/
def spelled (pieces : List Piece) : List Char :=
  pieces.flatMap fun
    | .text _ cs => cs
    | _ => []

section

variable (nested : Bool → Reading (Option Script))

/-- Read the text of one here-document. -/
def document (d : PendingDocument) : Reading Unit := do
  let s ← get
  let (raw, after, lines) :=
    rawDocument d.mark d.stripsTabs d.literal (s.rest.length + 1) false s.rest
  let pieces ←
    if d.literal then pure [Piece.text true raw]
    else
      set { s with rest := raw, pending := [] }
      Pieces.read nested (raw.length + 1) { quoted := true, document := true } 0
  modify fun t =>
    { t with
      rest := after
      line := s.line + lines
      documents := t.documents.setIfInBounds d.number pieces
      quoted := s.quoted
      handedBack := s.handedBack
      last := s.last }

/-- Read the text of the here-documents named on this line. -/
def documents : Reading Unit := do
  let pending := (← get).pending
  modify fun s => { s with pending := [] }
  pending.forM (document nested)

/-! ### Tokens -/

/-- An operator that may be doubled. -/
def doubled (c : Char) (one two : String) : Reading Token := do
  return .sign (if ← Source.accept c then two else one)

/-- The start of a redirection, whose first character is given. -/
def redirectionFrom (c : Char) (descriptor : Option Nat) : Reading Token := do
  if c = '>' then
    let d := descriptor.getD 1
    if ← Source.accept '>' then return .redirection d .append false
    else if ← Source.accept '|' then return .redirection d .overwrite false
    else if ← Source.accept '&' then return .redirection d .duplicate false
    else return .redirection d .write false
  else
    let d := descriptor.getD 0
    if ← Source.accept '<' then
      return .redirection d (.document 0) (← Source.accept '-')
    else if ← Source.accept '&' then return .redirection d .duplicate false
    else if ← Source.accept '>' then return .redirection d .update false
    else return .redirection d .read false

/-- The descriptor that a word before `<` or `>` gives. Nothing comes back for any other word. -/
def descriptorBefore (pieces : List Piece) (quoted : Bool) : Option (Option Nat) :=
  if quoted then none
  else
    match pieces with
    | [] => some none
    | [.text false [c]] => if c.isDigit then some (some (c.toNat - '0'.toNat)) else none
    | _ => none

/-- Read a word, or the redirection that a word starts. -/
def wordToken (checks : Checks) : Reading Token := do
  modify fun s => { s with quoted := false }
  let pieces ← Pieces.read nested ((← Source.bound) + 1) { mark := checks.mark } 0
  let quoted := (← get).quoted
  match ← Source.peek? with
  | some c =>
    match if c = '<' ∨ c = '>' then descriptorBefore pieces quoted else none with
    | some descriptor =>
      Source.drop 1
      redirectionFrom c descriptor
    | none => return .word pieces quoted
  | none => return .word pieces quoted

def scan (checks : Checks) : Reading Token := do
  Source.skipGap
  let t ← match ← Source.peek? with
    | none => pure Token.endOfText
    | some c =>
      match c with
      | '\n' =>
        Source.drop 1
        Source.countLine
        pure Token.lineEnd
      | '&' =>
        Source.drop 1
        doubled '&' "&" "&&"
      | '|' =>
        Source.drop 1
        doubled '|' "|" "||"
      | ';' =>
        Source.drop 1
        doubled ';' ";" ";;"
      | '(' =>
        Source.drop 1
        pure (.sign "(")
      | ')' =>
        Source.drop 1
        pure (.sign ")")
      | _ => wordToken nested checks
  modify fun s => { s with last := t }
  return t

/-- The next token as it comes: the last one if it was handed back. -/
def raw (checks : Checks) : Reading Token := do
  let s ← get
  if s.handedBack then
    set { s with handedBack := false }
    return s.last
  else scan nested checks

/-- Skip line ends, reading the here-documents named before them. -/
def skipLineEnds (checks : Checks) : Nat → Token → Reading Token
  | 0, t => return t
  | bound + 1, t =>
    match t with
    | .lineEnd => do
      documents nested
      skipLineEnds checks bound (← scan nested checks)
    | t => return t

/-- Put the text that a word stands for before the rest. -/
def unfold (name value : List Char) : Reading Unit :=
  modify fun s =>
    { s with
      rest := value ++ s.rest
      unfolding := (name, s.rest.length) :: s.unfolding
      unfoldsNext := false }

/-- Forget the aliases whose text has been read. The next word may be an alias if a blank ended the
text of one. -/
def settleAliases : Reading Unit :=
  modify fun s =>
    let left := s.rest.length
    let (done, under) := s.unfolding.partition fun (_, behind) => left ≤ behind
    let ends := done.any fun (name, _) =>
      ((s.aliases.lookup name).bind List.getLast?).any fun c => c == ' ' || c == '\t'
    { s with unfolding := under, unfoldsNext := s.unfoldsNext || ends }

/-- The next token. The number bounds how often aliases are replaced. -/
def tokenWithin (checks : Checks) : Nat → Reading Token
  | 0 => Source.fail "alias loop"
  | bound + 1 => do
    settleAliases
    let unfolds := checks.aliases || (← get).unfoldsNext
    let t ← raw nested checks
    let t ← if checks.lineEnds then skipLineEnds nested checks (← Source.bound) t else pure t
    modify fun s => { s with unfoldsNext := false, last := t }
    match t with
    | .word pieces false =>
      match plain? pieces with
      | none => return t
      | some cs =>
        let name := String.ofList cs
        if checks.reserved && Token.reserved.contains name then
          modify fun s => { s with last := .sign name }
          return .sign name
        else if unfolds then
          let s ← get
          match s.aliases.lookup cs with
          | some value =>
            if (s.unfolding.lookup cs).isSome then return t
            else
              unfold cs value
              tokenWithin checks bound
          | none => return t
        else return t
    | t => return t

def token (checks : Checks := {}) : Reading Token := do
  tokenWithin nested checks ((← get).aliases.length + 2)

/-- The next token, which has to be this sign. -/
def expect (text : String) (checks : Checks := {}) : Reading Unit := do
  let t ← token nested checks
  if !t.isSign text then Source.unexpected t text

/-! ### Commands -/

/-- Read the target of a redirection whose start has been read. -/
def targetOf (descriptor : Nat) (kind : RedirectionKind) (stripsTabs : Bool) :
    Reading (Redirection (List Piece)) := do
  let isDocument := match kind with
    | .document _ => true
    | _ => false
  match ← token nested { mark := isDocument } with
  | .word pieces quoted =>
    if isDocument then
      let s ← get
      let number := s.documents.size
      set { s with
        documents := s.documents.push []
        pending := s.pending ++ [PendingDocument.mk number (spelled pieces) quoted stripsTabs] }
      return ⟨descriptor, .document number, []⟩
    else return ⟨descriptor, kind, pieces⟩
  | t => Source.unexpected t

/-- The redirections after a compound command. -/
def trailing : Nat → Checks → Reading (List (Redirection (List Piece)))
  | 0, _ => return []
  | bound + 1, checks => do
    match ← token nested checks with
    | .redirection d kind strips =>
      let r ← targetOf nested d kind strips
      return r :: (← trailing bound {})
    | _ =>
      Source.handBack
      return []

/-- The words of a list up to what ends it, which is taken too. -/
def wordList : Nat → Reading (List (List Piece))
  | 0 => return []
  | bound + 1 => do
    match ← token nested with
    | .word pieces _ => return pieces :: (← wordList bound)
    | .lineEnd => return []
    | .sign ";" => return []
    | t => Source.unexpected t

/-- The patterns of an arm up to the closing parenthesis, the first of which has been read. -/
def patterns : Nat → Token → Reading (List (List Piece))
  | 0, _ => return []
  | bound + 1, t => do
    let here := match t with
      | .word pieces _ => pieces
      | .sign text => [.text false text.toList]
      | _ => []
    match ← token nested with
    | .sign "|" => return here :: (← patterns bound (← token nested))
    | .sign ")" => return [here]
    | t => Source.unexpected t ")"

/-- The names that no function may have. -/
def specialBuiltins : List String :=
  [".", ":", "break", "continue", "eval", "exec", "exit", "export", "readonly", "return", "set",
    "shift", "times", "trap", "unset"]

/-- A word that can name a function. -/
def functionName? (pieces : List Piece) (quoted : Bool) : Option (List Char) :=
  match plain? pieces with
  | some cs =>
    if !quoted && isName cs && !specialBuiltins.contains (String.ofList cs) then some cs else none
  | none => none

/-- A simple command while it is read. -/
structure Simple where
  assignments : List (List Piece) := []
  words : List (List Piece) := []
  redirections : List (Redirection (List Piece)) := []
  /-- The only word is quoted. -/
  quoted : Bool := false

variable (self : Portion → Reading (Option Script))

def one : Reading Script := do
  match ← self .command with
  | some c => return c
  | none => Source.unexpected (← get).last

/-- The rest of a simple command that started on a line. -/
def simple (line : Nat) : Nat → Simple → Reading Script
  | 0, _ => Source.fail "command too long"
  | bound + 1, c => do
    let finish : Reading Script := do
      Source.handBack
      return .simple line c.assignments c.words c.redirections
    match ← token nested { aliases := c.words.isEmpty } with
    | .word pieces quoted =>
      if c.words.isEmpty then
        if (assignmentWord? pieces).isSome then
          simple line bound { c with assignments := c.assignments ++ [pieces] }
        else simple line bound { c with words := [pieces], quoted := quoted }
      else simple line bound { c with words := c.words ++ [pieces] }
    | .redirection d kind strips =>
      let r ← targetOf nested d kind strips
      simple line bound { c with redirections := c.redirections ++ [r] }
    | .sign "(" =>
      if c.words.length = 1 ∧ c.assignments.isEmpty ∧ c.redirections.isEmpty then
        expect nested ")"
        match c.words.head?.bind fun w => functionName? w c.quoted with
        | none => Source.fail "Bad function name"
        | some name =>
          let t ← token nested Checks.body
          let line := (← get).line
          modify fun s => { s with last := t }
          Source.handBack
          return .definition line name (← one self)
      else finish
    | _ => finish

/-- The rest of a conditional after `if` or `elif`. -/
def conditional : Nat → Reading Script
  | 0 => Source.fail "conditional too long"
  | bound + 1 => do
    let condition ← self .body
    expect nested "then"
    let yes ← self .body
    match ← token nested with
    | .sign "elif" => return .branch condition yes (some (← conditional bound))
    | .sign "else" => return .branch condition yes (← self .body)
    | _ =>
      Source.handBack
      return .branch condition yes none

/-- The rest of a loop over words. -/
def eachWord (line : Nat) : Reading Script := do
  let bad : Reading Script := Source.fail "Bad for loop variable"
  match ← token nested with
  | .word pieces false =>
    match plain? pieces with
    | none => bad
    | some name =>
      if !isName name then bad
      else
        let words ← match ← token nested Checks.body with
          | .sign "in" => do pure (some (← wordList nested (← Source.bound)))
          | .sign ";" => pure none
          | _ => do
            Source.handBack
            pure none
        expect nested "do" Checks.body
        return .each line name words (← self .body)
  | _ => bad

/-- The arms of a choice up to `esac`, which is taken too. -/
def arms : Nat → Reading (List (List (List Piece) × Option Script))
  | 0 => return []
  | bound + 1 => do
    match ← token nested { lineEnds := true, reserved := true } with
    | .sign "esac" => return []
    | t =>
      let first ← if t.isSign "(" then token nested else pure t
      let ps ← patterns nested (← Source.bound) first
      let body ← self .optionalBody
      match ← token nested { lineEnds := true, reserved := true } with
      | .sign "esac" => return [(ps, body)]
      | .sign ";;" => return (ps, body) :: (← arms bound)
      | t => Source.unexpected t ";;"

def choice (line : Nat) : Reading Script := do
  match ← token nested with
  | .word word _ =>
    expect nested "in" Checks.body
    return .choice line word (← arms nested self (← Source.bound))
  | t => Source.unexpected t "word"

/-- A compound command with the redirections after it. -/
def withRedirections (line : Nat) (body : Option Script) : Reading Script := do
  let rs ← trailing nested (← Source.bound) Checks.command
  match body with
  | some (.subshell l inner _) => return .subshell l inner rs
  | some c => return if rs.isEmpty then c else .redirected line c rs
  | none => return .redirected line (.simple line [] [] []) rs

def command : Reading Script := do
  let t ← token nested
  let line := (← get).line
  match t with
  | .sign "if" =>
    let c ← conditional nested self (← Source.bound)
    expect nested "fi"
    withRedirections nested line c
  | .sign "while" =>
    let condition ← self .body
    expect nested "do"
    let body ← self .body
    expect nested "done"
    withRedirections nested line (some (.loop false condition body))
  | .sign "until" =>
    let condition ← self .body
    expect nested "do"
    let body ← self .body
    expect nested "done"
    withRedirections nested line (some (.loop true condition body))
  | .sign "for" =>
    let c ← eachWord nested self line
    expect nested "done"
    withRedirections nested line c
  | .sign "case" =>
    let c ← choice nested self line
    withRedirections nested line c
  | .sign "(" =>
    let body ← self .body
    expect nested ")"
    withRedirections nested line (some (.subshell line body []))
  | .sign "\x7b" =>
    let body ← self .body
    expect nested "\x7d"
    withRedirections nested line body
  | .word _ _ =>
    Source.handBack
    simple nested self line (← Source.bound) {}
  | .redirection _ _ _ =>
    Source.handBack
    simple nested self line (← Source.bound) {}
  | t => Source.unexpected t

/-- The stages of a pipeline after the first. -/
def stages : Nat → Reading (List Script)
  | 0 => return []
  | bound + 1 => do
    match ← token nested with
    | .sign "|" =>
      let t ← token nested Checks.body
      modify fun s => { s with last := t }
      Source.handBack
      let c ← command nested self
      return c :: (← stages bound)
    | _ =>
      Source.handBack
      return []

/-- A pipeline, perhaps with its success and failure exchanged. -/
def pipeline (checks : Checks) : Reading Script := do
  let t ← token nested checks
  let negated := t.isSign "!"
  if negated then
    let t ← token nested Checks.command
    modify fun s => { s with last := t }
  Source.handBack
  let first ← command nested self
  let more ← stages nested self (← Source.bound)
  let whole := if more.isEmpty then first else .pipe (first :: more) false
  return if negated then .negated whole else whole

/-- The pipelines after the first that are joined to it. -/
def joined : Nat → Script → Reading Script
  | 0, c => return c
  | bound + 1, c => do
    match ← token nested with
    | .sign "&&" => joined bound (.andThen c (← pipeline nested self Checks.body))
    | .sign "||" => joined bound (.orElse c (← pipeline nested self Checks.body))
    | _ =>
      Source.handBack
      return c

/-- A command that is not waited for. -/
def inBackground : Script → Script
  | .pipe stages _ => .pipe stages true
  | .redirected line body rs => .background line body rs
  | c => .background 0 c []

/-- The commands of a portion after some. The flag says that a closing sign may follow. -/
def commands (asked : Portion) : Nat → Option Script → Bool → Reading (Option Script)
  | 0, _, _ => Source.fail "script too long"
  | bound + 1, before, mayClose => do
    let t ← token nested { Checks.command with lineEnds := asked ≠ .line }
    match t with
    | .lineEnd =>
      documents nested
      return before
    | .endOfText =>
      documents nested
      Source.handBack
      return before
    | t =>
      Source.handBack
      if mayClose && t.closes then return before
      let first ← pipeline nested self {}
      let c ← joined nested self (← Source.bound) first
      let t ← token nested
      let c := if t.isSign "&" then inBackground c else c
      let all := match before with
        | none => c
        | some b => .sequence b c
      match t with
      | .endOfText =>
        documents nested
        Source.handBack
        return some all
      | .lineEnd =>
        Source.handBack
        commands asked bound (some all) (asked ≠ .line)
      | .sign text =>
        if text = "&" ∨ text = ";" then commands asked bound (some all) (asked ≠ .line)
        else if asked = .line then Source.unexpected t
        else
          Source.handBack
          return some all
      | t =>
        if asked = .line then Source.unexpected t
        else
          Source.handBack
          return some all

end

/-- Read a portion. The number bounds how deep portions lie in each other; the length of the text is
always enough. -/
def portion : Nat → Portion → Reading (Option Script)
  | 0, _ => Source.fail "script too deep"
  | depth + 1, asked =>
    let nested (parenthesized : Bool) : Reading (Option Script) := do
      let body ← portion depth .optionalBody
      if parenthesized then expectClosing body
      else return body
    match asked with
    | .command => do return some (← command nested (portion depth))
    | .optionalBody => do commands nested (portion depth) asked (← Source.bound) none true
    | _ => do commands nested (portion depth) asked (← Source.bound) none false
where
  /-- The script inside a word, if a closing parenthesis follows. -/
  expectClosing (body : Option Script) : Reading (Option Script) := do
    let t ← token (fun _ => return none)
    if t.isSign ")" then return body else Source.unexpected t ")"

/-- Read a line of commands. The flag says that the text ends there. -/
def line : Reading (Option Script × Bool) := do
  modify fun s => { s with handedBack := false, pending := [] }
  let c ← portion ((← Source.bound) + 1) .line
  let s ← get
  return (c, s.handedBack && s.last matches .endOfText)

/-- A text as the text of a here-document, if it can be read as one. -/
def documentOf? (text : List Char) : Option (List Piece) :=
  let nested (parenthesized : Bool) : Reading (Option Script) := do
    let body ← portion (text.length + 1) .optionalBody
    if parenthesized then portion.expectClosing body else return body
  match (Pieces.read nested (text.length + 1) { quoted := true, document := true } 0).run
      { rest := text } with
  | .ok (pieces, _) => some pieces
  | .error _ => none

end Grammar

end Shell

end BuildPlan
