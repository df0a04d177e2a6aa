import Shell.FileTree.Edit

/-!
# File trees — the files of every machine

What is there before anything else: the two special files and the two tools, at their usual places.
-/

namespace Shell

namespace FileTree

/-- The special files and the tools, each with its location. -/
def standardNodes : List (Location × Node) :=
  [(["null", "dev"], .device .null),
    (["full", "dev"], .device .full),
    (["sh", "bin"], .tool .interpreter),
    (["cat", "bin"], .tool .concatenate)]

/-- The tree that holds them and nothing else. -/
def standard : FileTree :=
  standardNodes.foldl (fun tree (location, node) => tree.plant location node) {}

end FileTree

end Shell
