import Lifelines.Pattern.CharSet

/-!
# Regular expressions

An expression matches at a place of a subject in all ways that its parts allow.
A search takes the first place where there is a match, and of the matches there
the longest; of the ways to get it, the one in which earlier parts take more.

* `Regex.ends`: where the matches at a place end, the greedier ones first;
* `Regex.find?`: the match that a search finds.
-/

namespace Lifelines.Pattern

/-- Regular expressions. -/
inductive Regex where
  /-- The empty text. -/
  | empty
  /-- Any character. -/
  | any
  /-- A character of a set. -/
  | set (s : CharSet)
  /-- The start of the subject. -/
  | atStart
  /-- The end of the subject. -/
  | atEnd
  /-- The start of a line of the subject. -/
  | lineStart
  /-- The end of a line of the subject. -/
  | lineEnd
  /-- The start of a word. -/
  | wordStart
  /-- The end of a word. -/
  | wordEnd
  /-- The start or the end of a word, or, if `inside`, any other place. -/
  | wordEdge (inside : Bool)
  /-- One after the other. -/
  | both (first second : Regex)
  /-- One of two. -/
  | either (first second : Regex)
  /-- A number of times. -/
  | repeated (body : Regex) (least : Nat) (most : Option Nat)
  /-- A part whose place is remembered. -/
  | group (n : Nat) (body : Regex)
  /-- What a group has matched. -/
  | again (n : Nat)
  deriving DecidableEq

namespace Regex

/-- A place in a subject and the places of the groups matched so far, the latest
    first. -/
structure Here where
  position : Nat
  groups : List (Nat × Nat × Nat) := []

/-- Whether an expression stands for a place and not for characters. -/
def isPlace : Regex → Bool
  | atStart | atEnd | lineStart | lineEnd | wordStart | wordEnd | wordEdge _ => true
  | _ => false

/-- The number of the last group. -/
def groupCount : Regex → Nat
  | both a b | either a b => max (groupCount a) (groupCount b)
  | repeated body _ _ => groupCount body
  | group n body => max n (groupCount body)
  | _ => 0

/-- Whether an expression refers to a group. -/
def refersBack : Regex → Bool
  | both a b | either a b => refersBack a || refersBack b
  | repeated body _ _ => refersBack body
  | group _ body => refersBack body
  | again _ => true
  | _ => false

/-- Keeps the first of those that are at one place, all being within `limit`. -/
def distinct (limit : Nat) (places : List Here) : List Here :=
  let start : List Here × Array Bool := ([], Array.replicate (limit + 1) false)
  (places.foldl
    (fun (kept, seen) h =>
      if (seen[h.position]?).getD true then (kept, seen)
      else (h :: kept, seen.set! h.position true))
    start).1.reverse

/-- Whether a word goes through a place: a character of a word is there. -/
def isWordAt (subject : Array Char) (i : Nat) : Bool :=
  match subject[i]? with
  | some c => c.isAlphanum || c = '_'
  | none => false

/-- Whether a character of a word is before a place. -/
def isWordBefore (subject : Array Char) (i : Nat) : Bool :=
  i ≠ 0 && isWordAt subject (i - 1)

/-- Whether a part of the subject stands at a place too. -/
def standsAt (subject : Array Char) (start length place : Nat) : Bool :=
  (List.range length).all fun k =>
    match subject[start + k]?, subject[place + k]? with
    | some c, some d => c = d
    | _, _ => false

/-- Repeats a step at least `least` times and at most `most` times, more often
    first; a step that goes nowhere is not repeated. -/
def repeatStep (step : Here → List Here) : (fuel : Nat) → (least : Nat) → (most : Option Nat) →
    Here → List Here
  | 0, _, _, h => [h]
  | fuel + 1, least, most, h =>
    if most = some 0 then [h]
    else
      let further := (step h).flatMap fun next =>
        if next.position = h.position then if least = 0 then [] else [next]
        else repeatStep step fuel (least - 1) (most.map (· - 1)) next
      if least = 0 then further ++ [h] else further

/-- Where the matches at a place end. -/
def ends (subject : Array Char) (exact : Bool) : Regex → Here → List Here
  | empty, h => [h]
  | any, h => if h.position < subject.size then [{ h with position := h.position + 1 }] else []
  | set s, h =>
    match subject[h.position]? with
    | some c => if s.contains c then [{ h with position := h.position + 1 }] else []
    | none => []
  | atStart, h => if h.position = 0 then [h] else []
  | atEnd, h => if h.position = subject.size then [h] else []
  | lineStart, h =>
    if h.position = 0 || subject[h.position - 1]? = some '\n' then [h] else []
  | lineEnd, h =>
    if h.position = subject.size || subject[h.position]? = some '\n' then [h] else []
  | wordStart, h =>
    if isWordAt subject h.position && !isWordBefore subject h.position then [h] else []
  | wordEnd, h =>
    if !isWordAt subject h.position && isWordBefore subject h.position then [h] else []
  | wordEdge inside, h =>
    let edge := isWordAt subject h.position != isWordBefore subject h.position
    if edge != inside then [h] else []
  | both a b, h =>
    let places := (ends subject exact a h).flatMap fun h => ends subject exact b h
    if exact then places else distinct subject.size places
  | either a b, h =>
    let places := ends subject exact a h ++ ends subject exact b h
    if exact then places else distinct subject.size places
  | repeated body least most, h =>
    let places :=
      repeatStep (fun h => ends subject exact body h) (subject.size + least + 1) least most h
    if exact then places else distinct subject.size places
  | group n body, h =>
    (ends subject exact body h).map fun next =>
      { next with groups := (n, h.position, next.position) :: next.groups }
  | again n, h =>
    match h.groups.lookup n with
    | some (start, stop) =>
      if standsAt subject start (stop - start) h.position then
        [{ h with position := h.position + (stop - start) }]
      else []
    | none => []

/-- A match. -/
structure Found where
  start : Nat
  stop : Nat
  groups : List (Nat × Nat × Nat)

namespace Found

/-- A part of a subject. -/
def part (subject : Array Char) (start stop : Nat) : Bytes :=
  (subject.extract start stop).toList

/-- What has been matched. -/
def text (f : Found) (subject : Array Char) : Bytes :=
  part subject f.start f.stop

/-- What a group has matched, and at zero all of it. -/
def groupText (f : Found) (subject : Array Char) (n : Nat) : Bytes :=
  if n = 0 then f.text subject
  else
    match f.groups.lookup n with
    | some (start, stop) => part subject start stop
    | none => []

end Found

/-- The longest of some matches, the first of those that are equally long. -/
def longest : List Here → Option Here
  | [] => none
  | h :: rest =>
    match longest rest with
    | some best => if h.position < best.position then some best else some h
    | none => some h

/-- The match at a place. -/
def matchAt? (r : Regex) (subject : Array Char) (start : Nat) : Option Found :=
  (longest (ends subject r.refersBack r ⟨start, []⟩)).map fun h => ⟨start, h.position, h.groups⟩

/-- The match that a search from a place finds. -/
def find? (r : Regex) (subject : Array Char) (start : Nat) : Option Found :=
  (List.range (subject.size + 1 - start)).findSome? fun k => matchAt? r subject (start + k)

/-- Whether there is a match in a text. -/
def occursIn (r : Regex) (text : Bytes) : Bool :=
  (find? r text.toArray 0).isSome

/-- The matches in a subject from a place on, none of them overlapping; an empty one
    is not taken right after another one. -/
def findAll (r : Regex) (subject : Array Char) : (fuel : Nat) → (start : Nat) →
    (after : Option Nat) → List Found
  | 0, _, _ => []
  | fuel + 1, start, after =>
    match find? r subject start with
    | none => []
    | some f =>
      if f.start = f.stop then
        let more := findAll r subject fuel (f.stop + 1) none
        if after = some f.start then more else f :: more
      else f :: findAll r subject fuel f.stop (some f.stop)

/-- All matches in a subject. -/
def all (r : Regex) (subject : Array Char) : List Found :=
  findAll r subject (subject.size + 2) 0 none

/-- An expression that does not tell upper from lower case. -/
def foldCase : Regex → Regex
  | set s => set s.foldCase
  | both a b => both (foldCase a) (foldCase b)
  | either a b => either (foldCase a) (foldCase b)
  | repeated body least most => repeated (foldCase body) least most
  | group n body => group n (foldCase body)
  | r => r

/-- The expression that a text itself matches. -/
def ofText (text : Bytes) : Regex :=
  text.foldr (fun c r => both (set (.single c)) r) empty

end Regex

end Lifelines.Pattern
