/-
Writing generated files below an output root.
-/
import ClientStyle.Api.Fixture
import ClientStyle.Files.Tree
set_option autoImplicit false

namespace ClientStyle

namespace Artifact

/-- Writes files below a root, one after the other until one cannot be written, and returns their
paths. The directories on the way are made. -/
def writeAll (t : FileTree) (root : String) : List Artifact → FileTree.Outcome (List String)
  | [] => ⟨t, .ok []⟩
  | a :: rest =>
    let path := Path.join root a.path
    let written := t.writeBelow path (.text a.content)
    match written.result with
    | .error e => ⟨written.tree, .error e⟩
    | .ok () =>
      let others := writeAll written.tree root rest
      ⟨others.tree, others.result.map (path :: ·)⟩

end Artifact

end ClientStyle
