import BuildPlan.Escape

/-!
# Command templates

A rule's command, description and depfile are templates: literal text with references to variables.
A template is held as its list of segments, so that the variables it mentions can be checked before
any text is written.

* `Template.placeholders` lists the variables mentioned, in order and with repeats.
* `Template.display` writes a template in the form that reading accepts.
* `TemplateError` holds the three ways in which a text is no template.

A reference is written `$name`. It is written `${name}` only where the text after it would lengthen
the name, so that `$out.d` stays as it is and `${out}x` does not become `$outx`.
-/

namespace BuildPlan

/-- A piece of a template. -/
inductive Segment where
  /-- Text that stands for itself. -/
  | literal (text : String)
  | variable (name : String)
deriving DecidableEq

/-- A command, description or depfile with its variable references told apart. -/
structure Template where
  segments : List Segment
deriving DecidableEq

/-- Why a text is not a template. -/
inductive TemplateError where
  /-- A `$` that starts neither an escape nor a reference; the position counts bytes. -/
  | danglingDollar (template : String) (position : Nat)
  /-- A `${` without a closing brace or without a valid name; the position of its `$` in bytes. -/
  | malformedBrace (template : String) (position : Nat)
  /-- A text of more than one line. -/
  | multiline (template : String)
deriving DecidableEq

namespace TemplateError

def message : TemplateError → String
  | .danglingDollar template position =>
    "stray '$' at byte " ++ toString position ++ " in '" ++ template ++ "'"
  | .malformedBrace template position =>
    "malformed '$\x7b...\x7d' reference at byte " ++ toString position ++ " in '" ++ template ++ "'"
  | .multiline template => "template '" ++ template ++ "' spans multiple lines"

/-- The byte offset of the offending `$`, where there is one. -/
def position? : TemplateError → Option Nat
  | .danglingDollar _ position => some position
  | .malformedBrace _ position => some position
  | .multiline _ => none

end TemplateError

namespace Template

/-- The character may stand in a variable name: an ASCII letter or digit, `_` or `-`. -/
def isNameChar (c : Char) : Bool := c.isAlphanum || c == '_' || c == '-'

/-- The variable a segment refers to. -/
def placeholder? : Segment → Option String
  | .literal _ => none
  | .variable name => some name

/-- The variables a template mentions, in order of appearance, repeats included. -/
def placeholders (t : Template) : List String := t.segments.filterMap placeholder?

/-- The text after a reference would lengthen its name. -/
def extendsName : List Segment → Bool
  | .literal text :: _ => text.toList.head?.any isNameChar
  | _ => false

/-- The written form of a reference, in braces or without. -/
def reference (name : List Char) (braced : Bool) : List Char :=
  if braced then '$' :: '\x7b' :: name ++ ['\x7d'] else '$' :: name

/-- The written form of a list of segments. -/
def spell : List Segment → List Char
  | [] => []
  | .literal text :: rest => Escape.value text.toList ++ spell rest
  | .variable name :: rest => reference name.toList (extendsName rest) ++ spell rest

/-- The written form of a template. -/
def display (t : Template) : String := String.ofList (spell t.segments)

@[simp] theorem toList_display (t : Template) : t.display.toList = spell t.segments := by
  simp [display]

example : display ⟨[.variable "out", .literal "x$"]⟩ = "$\x7bout\x7dx$$" := by decide
example : display ⟨[.variable "out", .literal ".d"]⟩ = "$out.d" := by decide

end Template

end BuildPlan
