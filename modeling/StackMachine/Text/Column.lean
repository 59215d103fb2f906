/-! Columns of text: padding with spaces up to a width counted in characters. A text that is wider than
its column is kept whole. -/
namespace StackMachine.Text

def spaces (n : Nat) : String := String.ofList (List.replicate n ' ')

/-- Align right in a column of `width` characters. -/
def padLeft (width : Nat) (s : String) : String := spaces (width - s.length) ++ s

/-- Align left in a column of `width` characters. -/
def padRight (width : Nat) (s : String) : String := s ++ spaces (width - s.length)

@[simp] theorem length_spaces (n : Nat) : (spaces n).length = n := by simp [spaces]

end StackMachine.Text
