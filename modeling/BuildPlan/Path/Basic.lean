/-!
# Paths

A path is a text and is printed as that text. What it means is read off its *components*: the
pieces between slashes, without the empty ones and without every `.` except a leading one. A leading
slash is the component `root`; `..` is kept and never resolved.

* `Path.components` reads a path.
* `Path.Same` is sameness of components: `a//b`, `a/./b` and `a/b/` are the same path as `a/b`,
  but `./a` is not the same path as `a`.
* `Path.join` puts one path under another, textually.
* `Path.under` says where a path lies below a root, `.` components dropped.
* `Path.Before` orders paths by components.

Two texts may be the same path, so every table keyed by paths compares with `Same`.
-/

namespace BuildPlan

/-- A file path, held as the text it was given as. -/
structure Path where
  text : String
deriving DecidableEq, Inhabited

/-- One step of a path. -/
inductive Component where
  /-- The leading slash. -/
  | root
  /-- A leading `.`. -/
  | current
  /-- The piece `..`. -/
  | parent
  /-- Any other piece. -/
  | name (text : String)
deriving DecidableEq

namespace Component

/-- The component that a piece stands for after the first piece: none if it is empty or `.`. -/
def ofPiece? (piece : List Char) : Option Component :=
  if piece = [] then none
  else if piece = ['.'] then none
  else if piece = ['.', '.'] then some .parent
  else some (.name (String.ofList piece))

/-- The component that the first piece stands for. It is `root` if the piece is empty and more
pieces follow, which is to say that the path starts with a slash. -/
def ofFirstPiece? (piece : List Char) (more : Bool) : Option Component :=
  if piece = [] then if more then some .root else none
  else if piece = ['.'] then some .current
  else ofPiece? piece

/-- The place of a component in the order: `root`, `current`, `parent`, then names by character. -/
def sortKey : Component → List Char
  | .root => ['\x00']
  | .current => ['\x01']
  | .parent => ['\x02']
  | .name text => '\x03' :: text.toList

/-- The sort key tells components apart. -/
theorem sortKey_inj {a b : Component} : a.sortKey = b.sortKey ↔ a = b := by
  cases a <;> cases b <;> simp [sortKey, String.toList_inj]

end Component

namespace Path

/-- The pieces between slashes, empty ones included. -/
def pieces (p : Path) : List (List Char) := p.text.toList.splitOn '/'

/-- The components of a path. -/
def components (p : Path) : List Component :=
  match p.pieces with
  | [] => []
  | first :: rest =>
    (Component.ofFirstPiece? first !rest.isEmpty).toList ++ rest.filterMap Component.ofPiece?

/-- Two texts name the same path: their components agree. -/
def Same (p q : Path) : Prop := p.components = q.components

instance (p q : Path) : Decidable (p.Same q) :=
  inferInstanceAs (Decidable (p.components = q.components))

theorem Same.refl (p : Path) : p.Same p := rfl

theorem Same.symm {p q : Path} (h : p.Same q) : q.Same p := Eq.symm h

theorem Same.trans {p q r : Path} (h : p.Same q) (h' : q.Same r) : p.Same r := Eq.trans h h'

/-- Some path of the list is the same as `p`. -/
def isAmong (p : Path) (ps : List Path) : Bool := ps.any fun q => decide (q.Same p)

theorem isAmong_iff {p : Path} {ps : List Path} : p.isAmong ps = true ↔ ∃ q ∈ ps, q.Same p := by
  simp [isAmong]

/-- The path starts with a slash. -/
def isAbsolute (p : Path) : Bool := p.text.toList.head? == some '/'

/-- The path `extra` read from inside `base`: `extra` itself if it is absolute, and otherwise the
two texts with one slash between them, unless `base` is empty or already ends in one. -/
def join (base extra : Path) : Path :=
  if extra.isAbsolute then extra
  else if base.text.isEmpty || base.text.toList.getLast? == some '/' then
    ⟨base.text ++ extra.text⟩
  else ⟨base.text ++ "/" ++ extra.text⟩

/-- The components of the directory that holds the path. A path without a last step to drop, such
as the empty path or `/`, is held by the current directory. -/
def directory (p : Path) : List Component :=
  match p.components.getLast? with
  | none => []
  | some .root => []
  | some _ => p.components.dropLast

/-- Pieces without the empty ones and the `.` at their end. The first piece stays. -/
def trimmedPieces : List (List Char) → List (List Char)
  | [] => []
  | first :: rest => first :: (rest.reverse.dropWhile fun q => q.isEmpty || q == ['.']).reverse

/-- The text of the directory that holds the path, as far as the text of the path spells it. -/
def directoryText (p : Path) : List Char :=
  match trimmedPieces p.pieces with
  | [] => []
  | first :: rest =>
    if rest.isEmpty then []
    else
      let up := trimmedPieces (first :: rest.dropLast)
      if up = [[]] then ['/'] else ['/'].intercalate up

/-- The components of the path below `base`, or all its components if it does not lie below; in
either case without `.`. -/
def under (base p : Path) : List Component :=
  ((base.components.isPrefixOf? p.components).getD p.components).filter (· ≠ .current)

/-- The sort key of a path, component by component. -/
def sortKey (p : Path) : List (List Char) := p.components.map Component.sortKey

/-- The component order: lexicographic, a path coming after every path it extends. -/
def Before (p q : Path) : Prop := p.sortKey < q.sortKey

instance (p q : Path) : Decidable (p.Before q) :=
  inferInstanceAs (Decidable (p.sortKey < q.sortKey))

/-- The sort key tells paths apart exactly as far as their components do. -/
theorem sortKey_eq_iff {p q : Path} : p.sortKey = q.sortKey ↔ p.Same q := by
  constructor
  · intro h
    exact (List.map_inj_right fun a b hab => Component.sortKey_inj.1 hab).1 h
  · intro h
    simp only [sortKey, show p.components = q.components from h]

example : (Path.mk "a//b/./").components = [.name "a", .name "b"] := by decide
example : (Path.mk "/./x/..").components = [.root, .name "x", .parent] := by decide
example : (Path.mk "./a").Same ⟨"././a"⟩ ∧ ¬ (Path.mk "./a").Same ⟨"a"⟩ := by decide
example : (Path.mk "").components = [] ∧ (Path.mk ".").components = [.current] := by decide
example : (Path.mk "d").join ⟨""⟩ = ⟨"d/"⟩ ∧ (Path.mk "").join ⟨"x"⟩ = ⟨"x"⟩ := by decide
example : (Path.mk "././a//b/.").directoryText = "././a".toList := by decide
example : (Path.mk "/x").directoryText = ['/'] ∧ (Path.mk "x").directoryText = [] := by decide
example : under ⟨"."⟩ ⟨"./src//a"⟩ = [.name "src", .name "a"] := by decide
example : (Path.mk "../z").Before ⟨"a"⟩ ∧ (Path.mk "10").Before ⟨"9"⟩ := by decide

end Path

end BuildPlan
