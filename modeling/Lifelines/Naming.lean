/-!
# Generated names

Participants, frames and comments are referred to by generated names. All
three kinds draw their numbers from one counter, so a number is used once in a
diagram, whatever the kind.
-/

namespace Lifelines

/-- What a generated name stands for. -/
inductive NameKind where
  | participant
  | frame
  | comment
  deriving DecidableEq, Repr

/-- The letter that names of a kind start with. -/
def NameKind.letter : NameKind → String
  | participant => "O"
  | frame => "F"
  | comment => "C"

/-- The name of a kind that carries a number, such as `O_0` or `F_1`. -/
def NameKind.name (kind : NameKind) (number : Nat) : String :=
  kind.letter ++ "_" ++ toString number

/-- A source of names: how many it has issued, which is also the number that the
    next one carries. -/
structure NameSource where
  /-- How many names have been issued. -/
  issued : Nat := 0
  deriving DecidableEq, Repr

/-- The next name of a kind, and the source after it. -/
def NameSource.next (source : NameSource) (kind : NameKind) : String × NameSource :=
  (kind.name source.issued, ⟨source.issued + 1⟩)

end Lifelines
