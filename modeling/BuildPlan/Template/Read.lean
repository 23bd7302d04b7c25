import BuildPlan.Template.Basic
import BuildPlan.Text.Utf8

/-!
# Reading templates

A one-line text is read token by token. A token is a character other than `$`, one of the escapes
`$$`, `$ ` and `$:`, or a reference `$name` or `${name}`; a plain reference takes the longest name.

* `Template.afterDollar` reads what follows a `$`.
* `Template.tokens` reads a whole text, or stops at the first `$` that starts no token and returns
  the text from that `$` on.
* `Template.read` turns the tokens into segments: neighbouring characters become one literal.

The position of an error is the number of bytes before the offending `$`, which is the size of the
whole text less the size of the text from that `$` on.
-/

namespace BuildPlan

namespace Template

/-- A lexical unit of a template. -/
inductive Token where
  /-- A character that stands for itself, escaped or not. -/
  | char (c : Char)
  /-- A variable reference, in braces or without. -/
  | reference (name : List Char)
deriving DecidableEq

/-- What is wrong with a `$` that starts no token. -/
inductive Stray where
  /-- The text after it starts no escape and no reference. -/
  | dollar
  /-- A brace follows it, but no name and closing brace. -/
  | brace
deriving DecidableEq

/-- The name is not empty and has only name characters. -/
def isName (name : List Char) : Bool := !name.isEmpty && name.all isNameChar

/-- Read the rest of a token whose `$` has been read. What comes back with it is the text after
the token. -/
def afterDollar (cs : List Char) : Except Stray (Token × List Char) :=
  match cs with
  | '$' :: rest => .ok (.char '$', rest)
  | ' ' :: rest => .ok (.char ' ', rest)
  | ':' :: rest => .ok (.char ':', rest)
  | '\x7b' :: rest =>
    let name := rest.takeWhile (· ≠ '\x7d')
    match rest.dropWhile (· ≠ '\x7d') with
    | [] => .error .brace
    | _ :: after => if isName name then .ok (.reference name, after) else .error .brace
  | cs =>
    let name := cs.takeWhile isNameChar
    if name.isEmpty then .error .dollar else .ok (.reference name, cs.dropWhile isNameChar)

/-- What comes after a token is no longer than what came before it. -/
theorem length_afterDollar_le {cs rest : List Char} {t : Token}
    (h : afterDollar cs = .ok (t, rest)) : rest.length ≤ cs.length := by
  have drop : ∀ (p : Char → Bool) (l : List Char), (l.dropWhile p).length ≤ l.length :=
    fun p l => (List.dropWhile_sublist p).length_le
  unfold afterDollar at h
  split at h
  · cases h; simp
  · cases h; simp
  · cases h; simp
  · rename_i after
    have hdrop := drop (· ≠ '\x7d') after
    dsimp only at h
    split at h
    · cases h
    · rename_i heq
      split at h
      · cases h
        rw [heq] at hdrop
        simp only [List.length_cons] at hdrop ⊢
        omega
      · cases h
  · dsimp only at h
    split at h
    · cases h
    · cases h; exact drop _ _

/-- The tokens of a text, or the first `$` that starts none, with the text from it on. -/
def tokens (cs : List Char) : Except (Stray × List Char) (List Token) :=
  match cs with
  | [] => .ok []
  | c :: rest =>
    if c = '$' then
      match _h : afterDollar rest with
      | .error stray => .error (stray, c :: rest)
      | .ok (t, after) => (tokens after).map (t :: ·)
    else (tokens rest).map (.char c :: ·)
termination_by cs.length
decreasing_by
  · have := length_afterDollar_le _h
    simp only [List.length_cons]
    omega
  · simp

/-- Put pending literal text in front of segments, as one literal unless it is empty. -/
def flush (pending : List Char) (segments : List Segment) : List Segment :=
  if pending.isEmpty then segments else .literal (String.ofList pending) :: segments

/-- The literal text at the head of the tokens, and the segments after it. -/
def group : List Token → List Char × List Segment
  | [] => ([], [])
  | .char c :: ts => let (pending, segments) := group ts; (c :: pending, segments)
  | .reference name :: ts =>
    let (pending, segments) := group ts
    ([], .variable (String.ofList name) :: flush pending segments)

def segmentsOf (ts : List Token) : List Segment :=
  let (pending, segments) := group ts
  flush pending segments

/-- Read a template. A text of several lines is refused before anything else is looked at. -/
def read (text : String) : Except TemplateError Template :=
  let cs := text.toList
  if cs.contains '\n' then .error (.multiline text)
  else
    match tokens cs with
    | .ok ts => .ok ⟨segmentsOf ts⟩
    | .error (stray, rest) =>
      let position := Utf8.size cs - Utf8.size rest
      match stray with
      | .dollar => .error (.danglingDollar text position)
      | .brace => .error (.malformedBrace text position)

example : (read "$cxx -MF $out.d").toOption =
    some ⟨[.variable "cxx", .literal " -MF ", .variable "out", .literal ".d"]⟩ := by
  decide +kernel
example : (read "a$ b$:c$$d").toOption = some ⟨[.literal "a b:c$d"]⟩ := by decide +kernel
example : (read "é$%" matches .error (.danglingDollar _ 2)) = true := by decide +kernel
example : (read "$in $\x7ba b" matches .error (.malformedBrace _ 4)) = true := by decide +kernel

end Template

end BuildPlan
