import Lifelines.Awk.Evaluate
import Lifelines.Awk.Grammar
import Lifelines.Utility.Paths
import Lifelines.Utility.Starting

/-!
# Running programs on files

The first operand is a program, unless files with it are given; the others are files
to be read, or assignments.

* `Utility.awk`: the utility.
-/

namespace Lifelines.Utility

open Awk

/-- What is asked for. -/
structure AwkRequest where
  /-- The files with the program. -/
  programFiles : List Bytes := []
  assignments : List (Bytes × Value) := []
  separator : Option Bytes := none
  /-- The words about things that do nothing. -/
  notes : List Bytes := []
  operands : List Bytes := []

/-- What the words say that are given instead of a program. -/
inductive AwkAnswer where
  | usage
  | fault (text : Bytes)

/-- How the utility is used. -/
def awkUsage : Bytes :=
  ["Usage: mawk [Options] [Program] [file ...]",
    "",
    "Program:",
    "    The -f option value is the name of a file containing program text.",
    "    If no -f option is given, a \"--\" ends option processing; the following",
    "    parameters are the program text.",
    "",
    "Options:",
    "    -f program-file  Program  text is read from file instead of from the",
    "                     command-line.  Multiple -f options are accepted.",
    "    -F value         sets the field separator, FS, to value.",
    "    -v var=value     assigns value to program variable var.",
    "    --               unambiguous end of options.",
    "",
    "    Implementation-specific options are prefixed with \"-W\".  They can be",
    "    abbreviated:",
    "",
    "    -W version       show version information and exit.",
    "    -W compat        pre-POSIX 2001.",
    "    -W dump          show assembler-like listing of program and exit.",
    "    -W help          show this message and exit.",
    "    -W interactive   set unbuffered output, line-buffered input.",
    "    -W exec file     use file as program as well as last option.",
    "    -W posix         stricter POSIX checking.",
    "    -W random=number set initial random seed.",
    "    -W sprintf=number adjust size of sprintf buffer.",
    "    -W usage         show this message and exit."].flatMap fun line : String => line.toList ++ ['\n']

/-- The long options that change nothing here. -/
def quietAwkOptions : List String :=
  ["posix", "interactive", "repetitions", "traditional"]

/-- Whether a word is the start of one of some words. -/
def startsOneOf (w : Bytes) (words : List String) : Bool :=
  !w.isEmpty && words.any fun full => w.isPrefixOf full.toList

/-- Reads the options. -/
def readAwkOptions : (fuel : Nat) → List Bytes → AwkRequest → Except AwkAnswer AwkRequest
  | 0, words, q => .ok { q with operands := words }
  | _, [], q => .ok q
  | fuel + 1, word :: rest, q =>
    match word with
    | ['-', '-'] => .ok { q with operands := rest }
    | '-' :: '-' :: long =>
      if startsOneOf long ["help", "usage"] then .error .usage
      else if startsOneOf long quietAwkOptions then readAwkOptions fuel rest q
      else .error (.fault ("not an option: ".toList ++ word))
    | '-' :: letter :: attached =>
      if letter = 'F' || letter = 'v' || letter = 'f' || letter = 'W' then
        let value? : Option (Bytes × List Bytes) :=
          if attached.isEmpty then rest.head?.map fun v => (v, rest.drop 1) else some (attached, rest)
        match value? with
        | none => .error (.fault ("option ".toList ++ word ++ " lacks argument".toList))
        | some (value, rest) =>
          match letter with
          | 'F' =>
            let s := unescaped value
            match Separator.ofText s with
            | .ok _ => readAwkOptions fuel rest { q with separator := some s }
            | .error complaint => .error (.fault ("line 0: ".toList ++ complaint))
          | 'f' => readAwkOptions fuel rest { q with programFiles := q.programFiles ++ [value] }
          | 'v' =>
            match Run.assignment? value with
            | some a => readAwkOptions fuel rest { q with assignments := q.assignments ++ [a] }
            | none => .error (.fault ("improper assignment: -v ".toList ++ value))
          | _ =>
            if startsOneOf value ["help", "usage"] then .error .usage
            else if startsOneOf value quietAwkOptions then readAwkOptions fuel rest q
            else
              let note := "vacuous option: -W \"".toList ++ value ++ ['"']
              readAwkOptions fuel rest { q with notes := q.notes ++ [note] }
      else .error (.fault ("not an option: ".toList ++ word))
    | word => .ok { q with operands := word :: rest }
where
  /-- A text with the escapes in it read. -/
  unescaped (text : Bytes) : Bytes :=
    match Run.assignment? ("x=".toList ++ text) with
    | some (_, v) => v.toText []
    | none => text

/-- The state before a program begins. -/
def Awk.Machine.start (p : Program) (environment : List (Bytes × Bytes)) (words : List Bytes)
    (separator : Option Bytes) : Machine where
  program := p
  vars :=
    [("FS".toList, .text (separator.getD [' '])), ("OFS".toList, .text [' ']), ("ORS".toList, .text ['\n']),
      ("RS".toList, .text ['\n']), ("SUBSEP".toList, .text ['\x1c']), ("CONVFMT".toList, .text "%.6g".toList),
      ("OFMT".toList, .text "%.6g".toList), ("NF".toList, .number 0), ("NR".toList, .number 0),
      ("FNR".toList, .number 0), ("RSTART".toList, .number 0), ("RLENGTH".toList, .number (-1)),
      ("ARGC".toList, .number (Float.ofNat words.length))]
  named := [("ENVIRON".toList, 0), ("ARGV".toList, 1)]
  tables := #[⟨(environment.map fun (n, v) => (n, Value.input v)).reverse⟩,
    ⟨(words.zipIdx.map fun (w, i) => (Bytes.ofNat i, Value.input w)).reverse⟩]

/-- Runs a program on records. -/
def awk : Starting := fun ps => do
  let job ← read
  let name := baseName job.name
  let complain (text : Bytes) : Work Unit := Work.note (name ++ ": ".toList ++ text)
  let fail (texts : List Bytes) : Work ExitStatus := do
    texts.forM complain
    return .code 2
  if job.args.isEmpty then
    Work.put 2 awkUsage
    return .code 0
  match readAwkOptions (job.args.length + 1) job.args {} with
  | .error .usage =>
    Work.say awkUsage
    return .code 0
  | .error (.fault text) => fail [text]
  | .ok q =>
    q.notes.forM complain
    let source : Except Bytes (List (Option Bytes × Bytes) × List Bytes) ←
      match q.programFiles, q.operands with
      | [], text :: rest => pure (.ok ([(none, if text = ['-'] then [] else text)], rest))
      | [], [] => pure (.ok ([], []))
      | files, rest => do
        let texts ← files.mapM fun f => do return (f, ← Work.contents f)
        match texts.findSome? fun (f, t) => match t with | .error e => some (f, e) | .ok _ => none with
        | some (f, e) => pure (.error (Run.readComplaint f e))
        | none => pure (.ok (texts.filterMap fun (f, t) => t.toOption.map fun t => (some f, t), rest))
    match source with
    | .error text => fail [text]
    | .ok (texts, operands) =>
      let environment := job.environment
      let first := Awk.Machine.start {} environment (name :: operands) q.separator
      -- what is assigned comes before the program is read
      match ← (q.assignments.forM fun (n, v) => Run.assign n v : Run Unit).run.run first with
      | (.error (.fault text), _) => fail [text]
      | (_, m) =>
        match Program.read texts (q.assignments.map (·.1)) with
        | .error faults => fail faults
        | .ok p =>
          let (result, m) ← (Evaluate.program ps p).run.run { m with program := p }
          let code ←
            match result with
            | .error (.fault text) => do
              complain text
              pure 2
            | _ => pure m.code
          let _ ← (Evaluate.finish ps).run.run m
          return .code code

end Lifelines.Utility
