import Mathlib.Data.List.Basic
import Mathlib.Data.List.Induction
import StackMachine.Proofs.Words
import StackMachine.Shell.Tree

/-! Paths in a tree. The path of names below the root leads to what stands under these names, as long as
there are directories on the way and nothing is too long. -/
namespace StackMachine

open Text

/-- The names that a file or directory can have. -/
structure IsName (name : String) : Prop where
  nonempty : name.toList ≠ []
  no_slash : '/' ∉ name.toList
  no_nul : '\x00' ∉ name.toList
  ne_dot : name ≠ "."
  ne_dots : name ≠ ".."
  short : name.utf8ByteSize ≤ maxNameSize

namespace Route

end Route

namespace Tree

variable {t : Tree}

/-- A directory of the tree, and the directories on the way to it, under names that can be written in a
path. -/
structure Houses (t : Tree) (cwd : List String) : Prop where
  root_no_nul : '\x00' ∉ t.root.toList
  root_no_slash : t.root.toList.getLast? ≠ some '/'
  names : ∀ name ∈ cwd, IsName name
  directories : ∀ k ≤ cwd.length, t.item? (.within (cwd.take k)) = some .directory

namespace Houses

variable {names cwd : List String} {name : String}

lemma take (h : t.Houses names) (k : ℕ) : t.Houses (names.take k) where
  root_no_nul := h.root_no_nul
  root_no_slash := h.root_no_slash
  names := fun name hname => h.names name (List.mem_of_mem_take hname)
  directories := by
    intro j hj
    rw [List.take_take]
    exact h.directories _ (by rw [List.length_take] at hj; omega)

end Houses
end Tree
end StackMachine
