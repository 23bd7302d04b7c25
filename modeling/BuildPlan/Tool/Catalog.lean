import BuildPlan.Tool.Calculate
import BuildPlan.Tool.Edit
import BuildPlan.Tool.Fields
import BuildPlan.Tool.Lines
import BuildPlan.Tool.Running
import BuildPlan.Tool.Search

/-!
# All tools

* `Tool.all` lists the tools by name.
* `Tool.directories` are where they are found.
-/

namespace BuildPlan

open Shell (Powers)

namespace Tool

/-- The tools that only work on files and text. -/
def simple : List (String × Tool) :=
  [("[", bracket), ("basename", basename), ("cat", cat), ("chmod", chmod), ("comm", comm), ("cp", cp),
    ("cut", cut), ("dirname", dirname), ("echo", echo), ("egrep", egrep), ("expr", expr),
    ("false", false_), ("fgrep", fgrep), ("grep", grep), ("head", head),
    ("kill", kill), ("ls", ls), ("mkdir", mkdir), ("mv", mv), ("nl", nl), ("paste", paste),
    ("printenv", printenv), ("printf", printf), ("pwd", pwd), ("readlink", readlink),
    ("realpath", realpath), ("rev", rev), ("rm", rm), ("rmdir", rmdir), ("sed", sed), ("seq", seq), ("sleep", sleep),
    ("sort", sort), ("stat", stat), ("tac", tac), ("tail", tail), ("tee", tee), ("test", test),
    ("touch", touch), ("tr", tr), ("true", true_), ("tty", tty), ("uname", uname), ("uniq", uniq),
    ("wc", wc), ("which", which), ("yes", yes)]

/-- The tools that run programs. -/
def runners (p : Powers) : List (String × Tool) :=
  [("env", env p), ("nice", nice p), ("nohup", nohup p), ("setsid", setsid p), ("timeout", timeout p),
    ("xargs", xargs p)]

/-- The names of all tools, the shell among them. -/
def names : List String :=
  ["sh", "dash"] ++ simple.map Prod.fst ++
    ["env", "nice", "nohup", "setsid", "timeout", "xargs"]

def named? (p : Powers) (name : String) : Option Tool := (simple ++ runners p).lookup name

/-- The directories that tools are found in. -/
def directories : List Location := [["bin"], ["bin", "usr"]]

/-- The location is that of a tool: the name of the tool. -/
def nameAt? : Location → Option String
  | name :: outer => if directories.contains outer && names.contains name then some name else none
  | [] => none

example : nameAt? ["cat", "bin"] = some "cat" ∧ nameAt? ["cat", "src"] = none := by decide

end Tool

end BuildPlan
