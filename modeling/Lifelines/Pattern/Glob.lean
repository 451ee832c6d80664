import Lifelines.Pattern.CharSet

/-!
# Patterns for names

A pattern is a list of items: a character, any character, any text, or a
character of a set.

* `Glob.matches`: whether a text matches a pattern;
* `Glob.ofMarked`: the pattern that a text stands for, some of whose characters
  are quoted and stand for themselves.
-/

namespace Lifelines.Pattern

/-- An item of a pattern. -/
inductive GlobItem where
  | char (c : Char)
  | anyChar
  | anyText
  | set (s : CharSet)
  deriving DecidableEq

/-- A pattern for names. -/
abbrev Glob := List GlobItem

namespace Glob

/-- Whether a text matches a pattern. -/
def fits : Glob → Bytes → Bool
  | [], cs => cs.isEmpty
  | .char c :: items, d :: cs => c = d && fits items cs
  | .anyChar :: items, _ :: cs => fits items cs
  | .set s :: items, d :: cs => s.contains d && fits items cs
  | .anyText :: items, [] => fits items []
  | .anyText :: items, c :: cs => fits items (c :: cs) || fits (.anyText :: items) cs
  | _, [] => false
termination_by items cs => items.length + cs.length

/-- The pattern of characters that are marked if they are quoted. A bracket that is
    not closed stands for itself. -/
def ofMarked (fuel : Nat) : List (Char × Bool) → Glob
  | [] => []
  | (c, true) :: rest =>
    match fuel with
    | 0 => []
    | fuel + 1 => .char c :: ofMarked fuel rest
  | (c, false) :: rest =>
    match fuel with
    | 0 => []
    | fuel + 1 =>
      if c = '*' then .anyText :: ofMarked fuel rest
      else if c = '?' then .anyChar :: ofMarked fuel rest
      else if c = '[' then
        -- a quoted character cannot close the set, so it is read with a backslash before it
        let marked := rest.flatMap fun p => if p.2 then ['\\', p.1] else [p.1]
        match CharSet.read? .quoting ['!', '^'] marked with
        | some (s, after) =>
          .set s :: ofMarked fuel (dropMarked (marked.length - after.length) rest)
        | none => .char c :: ofMarked fuel rest
      else .char c :: ofMarked fuel rest
where
  /-- Drops as many characters as have been read, a quoted one counting for two. -/
  dropMarked : Nat → List (Char × Bool) → List (Char × Bool)
    | 0, rest => rest
    | _, [] => []
    | n + 1, (_, true) :: rest => dropMarked (n - 1) rest
    | n + 1, (_, false) :: rest => dropMarked n rest

/-- The pattern of a text none of whose characters is quoted, a backslash taking the
    next one as it is. -/
def ofText (text : Bytes) : Glob :=
  ofMarked (text.length + 1) (mark text)
where
  /-- Marks what comes after a backslash. -/
  mark : Bytes → List (Char × Bool)
    | [] => []
    | '\\' :: c :: rest => (c, true) :: mark rest
    | c :: rest => (c, false) :: mark rest

/-- Whether a pattern is more than a text that stands for itself. -/
def isPattern (glob : Glob) : Bool :=
  glob.any fun
    | .char _ => false
    | _ => true

end Glob

end Lifelines.Pattern
