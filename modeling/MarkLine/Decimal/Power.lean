/-!
# Powers of two and ten

The two bases that numbers are written in here: machine words in two, texts in ten.
-/

namespace MarkLine

def twoTo (n : Nat) : Nat := Nat.pow 2 n

def tenTo (n : Nat) : Nat := Nat.pow 10 n

end MarkLine
