import BuildPlan.Shell.Expansion

/-!
# Redirecting

* `Redirecting.resolve` expands the targets of redirections.
* `Redirecting.apply` lets descriptors lead where redirections say, one after the other. The first that
  cannot be followed ends it with a complaint.
* `Redirecting.within` runs a step under redirections and takes them back afterwards.
-/

namespace BuildPlan

namespace Shell

open Step (session modifySession setStatus)

namespace Redirecting

/-- A redirection whose target has been expanded. -/
abbrev Resolved := Redirection (List Char)

variable (p : Powers)

/-- Expand the target of a redirection. -/
def resolveOne (r : Redirection (List Piece)) : Step Resolved := do
  match r.kind with
  | .document n =>
    let pieces := (← session).documents[n]?.getD []
    let text ← Expansion.single p .none pieces
    return ⟨r.descriptor, r.kind, text⟩
  | .duplicate =>
    let text ← Expansion.target p r.target
    if text = ['-'] ∨ (text.length = 1 ∧ text.all Char.isDigit) then
      return ⟨r.descriptor, r.kind, text⟩
    else Step.fail "Syntax error: Bad fd number".toList
  | _ => return ⟨r.descriptor, r.kind, ← Expansion.target p r.target⟩

/-- Expand the targets of redirections. -/
def resolve (rs : List (Redirection (List Piece))) : Step (List Resolved) := rs.mapM (resolveOne p)

/-- Why a file cannot be opened, or made. -/
def why (makes : Bool) (o : Obstacle) : String :=
  match o with
  | .missing => if makes then "Directory nonexistent" else "No such file"
  | .notDirectory => if makes then "Directory nonexistent" else "No such file"
  | o => o.wording

/-- Open a path. A path that cannot be opened is an error. -/
def openPath (path : List Char) (a : World.Access) : Step Nat := do
  let s ← session
  let isThere := ((← Step.world).entryAt? s.directory path).isSome
  match World.descriptor? path with
  | some d =>
    match s.channel? d with
    | some channel => return channel
    | none => refuse .missing
  | none =>
    let regular : Bool := match (← Step.world).place s.directory path with
      | .ok place => (World.device? place).isNone
      | .error _ => true
    let a := if a.creates && isThere && regular && a.empties && s.has 'C' then { a with isNew := true } else a
    match (← Step.world).open? s.directory s.mask path a with
    | .ok (w, channel) =>
      Step.modifyWorld fun _ => w
      return channel
    | .error o => refuse o
where
  /-- Say why the path cannot be opened. -/
  refuse (o : Obstacle) : Step Nat :=
    Step.fail ((if a.creates then "cannot create ".toList else "cannot open ".toList) ++ path ++
      ": ".toList ++ (why a.creates o).toList)

def applyOne (r : Resolved) : Step Unit := do
  let openFor (a : World.Access) : Step Unit := do
    let channel ← openPath r.target a
    modifySession fun s => s.lead r.descriptor (some channel)
  match r.kind with
  | .read => openFor { reads := true }
  | .write => openFor { writes := true, creates := true, empties := true }
  | .overwrite => do
    let s ← session
    modifySession fun s => s.setOption 'C' false
    let isSet := s.has 'C'
    Step.afterwards (openFor { writes := true, creates := true, empties := true })
      (modifySession fun s => s.setOption 'C' isSet)
  | .append => openFor { writes := true, creates := true, appends := true }
  | .update => openFor { reads := true, writes := true, creates := true }
  | .document _ => do
    let (front, _) ← Step.addPipe none r.target
    modifySession fun s => s.lead r.descriptor (some front)
  | .duplicate =>
    if r.target = ['-'] then modifySession fun s => s.lead r.descriptor none
    else do
      let from_ := Decimal.natural r.target
      match (← session).channel? from_ with
      | some channel => modifySession fun s => s.lead r.descriptor (some channel)
      | none => Step.fail (r.target ++ ": Bad file descriptor".toList)

/-- Follow redirections one after the other. What comes back says whether all could be followed. -/
def apply (rs : List Resolved) : Step Bool :=
  tryCatch
    (do
      rs.forM applyOne
      return true)
    fun
      | .failed => return false
      | stop => throw stop

/-- Let the descriptors of redirections lead where they led before. -/
def restore (before : Session) (rs : List Resolved) : Step Unit :=
  rs.forM fun r => modifySession fun s => s.lead r.descriptor (before.channel? r.descriptor)

/-- Run a step under redirections. If one cannot be followed, the status is two and the step is not run;
what comes back says whether it was. -/
def within (rs : List Resolved) (step : Step Unit) : Step Bool := do
  let before ← session
  if ← apply rs then
    Step.afterwards step (restore before rs)
    return true
  else
    restore before rs
    setStatus 2
    return false

end Redirecting

end Shell

end BuildPlan
