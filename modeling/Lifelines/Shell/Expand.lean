import Lifelines.Pattern.Glob
import Lifelines.Pattern.RegexText
import Lifelines.Shell.Session

/-!
# The expansion of words

A word is expanded to marked characters: each knows whether it is quoted and
whether it may separate fields. The marks tell where fields end, which
characters are patterns, and which fields are there though they are empty.

* `Mark`: marked characters and the ends of fields;
* `Expand.marks`: the expansion of a word;
* `Expand.text`, `Expand.pattern`, `Expand.fields`: what is made of it.
-/

namespace Lifelines.Shell

/-- A character of an expansion. -/
structure Glyph where
  char : Char
  quoted : Bool
  /-- Whether it may separate fields. -/
  splits : Bool

/-- A part of an expansion. -/
inductive Mark where
  | glyph (g : Glyph)
  /-- A field ends here. -/
  | gap
  /-- There is a field here, even if it is empty. -/
  | hold

/-- A character of a field, and whether it is quoted. -/
abbrev Field := List (Char × Bool)

namespace Expand

/-! ### Fields -/

/-- The fields that are being made: those that are finished, the latest first, and
    the one that goes on. -/
structure Splitting where
  done : List Field := []
  current : Field := []
  hasField : Bool := false
  /-- Whether the last field has ended with white space. -/
  afterSpace : Bool := false

namespace Splitting

/-- Ends a field. -/
def finish (s : Splitting) (afterSpace : Bool) : Splitting where
  done := s.current.reverse :: s.done
  afterSpace := afterSpace

/-- Goes on with a part of an expansion. White space ends a field if there is one; any
    other separator ends one even if it is empty. -/
def add (separators : Bytes) (s : Splitting) : Mark → Splitting
  | .hold => { s with hasField := true }
  | .gap => if s.hasField then s.finish false else { s with afterSpace := false }
  | .glyph g =>
    if g.splits && separators.contains g.char then
      if g.char = ' ' || g.char = '\t' || g.char = '\n' then
        if s.hasField then s.finish true else s
      else if s.afterSpace && !s.hasField then { s with afterSpace := false }
      else s.finish false
    else { s with current := (g.char, g.quoted) :: s.current, hasField := true, afterSpace := false }

end Splitting

/-- The fields of an expansion. -/
def split (separators : Bytes) (marks : List Mark) : List Field :=
  let s := marks.foldl (Splitting.add separators) {}
  (if s.hasField then s.current.reverse :: s.done else s.done).reverse

/-- The paths that fit components of a pattern, seen from a directory. -/
def paths (files : FileTree) (dotted : Bool) : (start : Bytes) → List Field → List Bytes
  | start, [] => [start]
  | start, component :: rest =>
    let glob := Pattern.Glob.ofMarked (component.length + 1) component
    let slash : Bytes := if rest.isEmpty then [] else ['/']
    if Pattern.Glob.isPattern glob then
      let showsDots := dotted || (component.head?.map (·.1)) = some '.'
      match files.locate (if start.isEmpty then "." else start.toText) with
      | .error _ => []
      | .ok l =>
        let names := (files.names l).filter fun name =>
          (showsDots || name.toList.head? ≠ some '.') && Pattern.Glob.fits glob (Bytes.ofString name)
        let names := names.filter fun name => rest.isEmpty || files.node? (l ++ [name]) = some .directory
        names.flatMap fun name => paths files dotted (start ++ Bytes.ofString name ++ slash) rest
    else
      let path := start ++ component.map (·.1) ++ slash
      if rest.isEmpty && !component.isEmpty && !files.leads path.toText then []
      else paths files dotted path rest

/-- The components of a field. -/
def components (field : Field) : List Field :=
  field.foldr (fun p pieces =>
    if p.1 = '/' then [] :: pieces
    else
      match pieces with
      | [] => [[p]]
      | piece :: rest => (p :: piece) :: rest) [[]]

/-- What a field stands for: the paths that fit it, or its text if there are none. -/
def withPaths (files : FileTree) (s : Session) (field : Field) : List Bytes :=
  let text := field.map (·.1)
  if s.has 'f' || !Pattern.Glob.isPattern (Pattern.Glob.ofMarked (field.length + 1) field) then [text]
  else
    let found := paths files (s.settings.contains "dotglob".toList) [] (components field)
    if found.isEmpty then if s.settings.contains "nullglob".toList then [] else [text]
    else found.mergeSort fun a b => !Bytes.before b a

/-! ### Values -/

/-- The glyphs of a value. -/
def glyphs (quoted : Bool) (text : Bytes) : List Mark :=
  text.map fun c => .glyph ⟨c, quoted, !quoted⟩

/-- What is found for a parameter. -/
inductive Found where
  | unset
  | one (text : Bytes)
  /-- Several values; whether they are one text when they are quoted. -/
  | many (texts : List Bytes) (joined : Bool)

/-- What stands between values that become one text. -/
def joiner (s : Session) : Bytes :=
  match s.parameter? "IFS".toList with
  | some v => (((v.value.bind Value.asText).getD [' ']).take 1)
  | none => [' ']

/-- Values with something between them. -/
def between (gap : List Mark) : List (List Mark) → List Mark
  | [] => []
  | [marks] => marks
  | marks :: rest => marks ++ gap ++ between gap rest

/-- What is inserted for a parameter. -/
def insertion (s : Session) (quoted : Bool) : Found → List Mark
  | .unset => if quoted then [.hold] else []
  | .one text => (if quoted then [.hold] else []) ++ glyphs quoted text
  | .many texts joined =>
    if quoted && joined then .hold :: glyphs true (Bytes.join (joiner s) texts)
    else if quoted then between [.gap] (texts.map fun t => .hold :: glyphs true t)
    else between [.gap] (texts.map (glyphs false))

/-- The text of an expansion in which fields do not matter. -/
def flat (s : Session) (marks : List Mark) : Bytes :=
  marks.flatMap fun
    | .glyph g => [g.char]
    | .gap => if s.isExtended then [' '] else joiner s
    | .hold => []

/-- The characters of an expansion in which fields do not matter. -/
def marked (s : Session) (marks : List Mark) : Field :=
  marks.flatMap fun
    | .glyph g => [(g.char, g.quoted)]
    | .gap => (joiner s).map fun c => (c, true)
    | .hold => []

/-- Whether there is something, or something that is not empty. -/
def Found.counts (orEmpty : Bool) : Found → Bool
  | .unset => false
  | .one text => !(orEmpty && text.isEmpty)
  | .many texts _ => !texts.isEmpty && !(orEmpty && texts.all List.isEmpty)

/-- Changes each value. -/
def Found.map (f : Bytes → Bytes) : Found → Found
  | .unset => .one (f [])
  | .one text => .one (f text)
  | .many texts joined => .many (texts.map f) joined

/-- Complains about a parameter that is not set. -/
def unsetFault {α : Type} (name : Bytes) : Eval α := do
  let s ← get
  if s.isExtended then
    Eval.complain (name ++ ": unbound variable".toList)
    throw (.failed (if s.label.isEmpty then 1 else 127))
  else Eval.fault (name ++ ": parameter not set".toList)

/-! ### Changes of values -/

/-- Cuts what fits a pattern off the start of a text. -/
def cutStart (glob : Pattern.Glob) (longest : Bool) (text : Bytes) : Bytes :=
  let lengths := List.range (text.length + 1)
  let lengths := if longest then lengths.reverse else lengths
  match lengths.find? fun n => Pattern.Glob.fits glob (text.take n) with
  | some n => text.drop n
  | none => text

/-- Cuts what fits a pattern off the end of a text. -/
def cutEnd (glob : Pattern.Glob) (longest : Bool) (text : Bytes) : Bytes :=
  let lengths := List.range (text.length + 1)
  let lengths := if longest then lengths else lengths.reverse
  match lengths.find? fun n => Pattern.Glob.fits glob (text.drop n) with
  | some n => text.take n
  | none => text

/-- The longest start of a text that fits a pattern. -/
def longestFit? (glob : Pattern.Glob) (text : Bytes) : Option Nat :=
  (List.range (text.length + 1)).reverse.find? fun n => Pattern.Glob.fits glob (text.take n)

/-- Replaces what fits a pattern: once or all over. -/
def replaceFits (glob : Pattern.Glob) (all : Bool) (new : Bytes) : (fuel : Nat) → Bytes → Bytes
  | 0, text => text
  | fuel + 1, text =>
    match longestFit? glob text, text with
    | some (n + 1), _ =>
      let rest := text.drop (n + 1)
      new ++ (if all then replaceFits glob all new fuel rest else rest)
    | _, c :: rest => c :: replaceFits glob all new fuel rest
    | _, [] => []

/-- Replaces what fits a pattern, at the place that a sign says. -/
def replace (glob : Pattern.Glob) (place : Char) (new text : Bytes) : Bytes :=
  if glob.isEmpty then text
  else if place = '#' then
    match longestFit? glob text with
    | some n => new ++ text.drop n
    | none => text
  else if place = '%' then
    match (List.range (text.length + 1)).find? fun n => Pattern.Glob.fits glob (text.drop n) with
    | some n => text.take n ++ new
    | none => text
  else replaceFits glob (place = '/') new (text.length + 1) text

/-- Changes the case of all or of the first character. -/
def recase (upper all : Bool) (text : Bytes) : Bytes :=
  let f := if upper then Char.toUpper else Char.toLower
  if all then text.map f else
    match text with
    | c :: rest => f c :: rest
    | [] => []

/-- A part of a list; places before the start are counted from the end. -/
def slice {α : Type} (start : Int) (length : Option Int) (items : List α) : List α :=
  let n : Int := items.length
  let first := if start < 0 then start + n else start
  let last :=
    match length with
    | none => n
    | some k => if k < 0 then n + k else first + k
  if first < 0 then [] else (items.take last.toNat).drop first.toNat

/-! ### Arithmetic -/

/-- What is said about an expression without a value. -/
def sumComplaint (dialect : Dialect) (text : Bytes) (f : SumFault) : Bytes :=
  match dialect, f with
  | .plain, .expecting what => "arithmetic expression: ".toList ++ what.toList ++ ": \"".toList ++ text ++ ['"']
  | .plain, .divisionByZero =>
    "arithmetic expression: division by zero: \"".toList ++ text ++ ['"']
  | .plain, .readOnly name => name ++ ": is read only".toList
  | .extended, .expecting what =>
    let token := ((text.reverse.takeWhile fun c => c ≠ ' ').reverse)
    if what = "expecting EOF" then
      text ++ ": syntax error in expression (error token is \"".toList ++ token ++ "\")".toList
    else text ++ ": syntax error: operand expected (error token is \"".toList ++ token ++ "\")".toList
  | .extended, .divisionByZero =>
    let token := (text.reverse.takeWhile fun c => c ≠ '/' && c ≠ '%').reverse
    text ++ ": division by 0 (error token is \"".toList ++ Bytes.trimStart token ++ "\")".toList
  | .extended, .readOnly name => name ++ ": readonly variable".toList
  | _, .illegalNumber t => "Illegal number: ".toList ++ t

/-- The value of a parameter, or of one of its elements, as a text. -/
def element (s : Session) (name : Bytes) (index : Option Int) : Bytes :=
  match (s.parameter? name).bind (·.value), index with
  | some v, none => v.asText.getD []
  | some (.list items), some i =>
    let top : Int := (items.getLast?.map fun p => (p.1 : Int) + 1).getD 0
    (items.lookup (if i < 0 then i + top else i).toNat).getD []
  | some (.text t), some 0 => t
  | some (.table items), some i => (items.lookup (Bytes.ofInt i)).getD []
  | _, _ => []

/-- Sets a parameter or one of its elements. -/
def setElement (name : Bytes) (index : Option Int) (text : Bytes) : Eval Unit := do
  match index, ((← get).parameter? name).bind (·.value) with
  | none, _ => Eval.assignText name text
  | some i, some (.list items) =>
    let top : Int := (items.getLast?.map fun p => (p.1 : Int) + 1).getD 0
    Eval.assign name (.list (Value.putItem (if i < 0 then i + top else i).toNat text items))
  | some i, some (.table items) => Eval.assign name (.table (Value.putEntry (Bytes.ofInt i) text items))
  | some i, some (.text t) => Eval.assign name (.list (Value.putItem i.toNat text [(0, t)]))
  | some i, none => Eval.assign name (.list [(i.toNat, text)])

/-- The value of an expression; at most `fuel` values are expressions themselves. -/
def arithmetic : (fuel : Nat) → Bytes → Eval Int
  | 0, text => Eval.fault (text ++ ": expression recursion level exceeded".toList)
  | fuel + 1, text => do
    let dialect := (← get).dialect
    let fail (f : SumFault) : Eval Int := do Eval.fault (sumComplaint dialect text f)
    let parameters : Sum.Parameters Eval := {
      get := fun name index => do
        let value := element (← get) name index
        match Sum.valueOf? value with
        | some n => return n
        | none => if dialect = .plain then fail (.illegalNumber value) else arithmetic fuel value
      set := fun name index n => setElement name index (Bytes.ofInt n)
      fail := fail }
    if dialect = .extended && (Bytes.trim text).isEmpty then return 0
    match Sum.read? dialect text with
    | .ok e => Sum.evaluate parameters e
    | .error f => fail f

/-- How deep expressions may be in the values of parameters. -/
def arithmeticLimit : Nat := 64

/-! ### Pieces -/

/-- How a word is expanded. -/
structure Manner where
  /-- Whether the word is a value that is assigned. -/
  assigning : Bool := false
  /-- Whether unquoted texts may separate fields. -/
  splits : Bool := false

/-- The home directories of users. -/
def homes : List (String × String) :=
  [("root", "/root"), ("daemon", "/usr/sbin"), ("bin", "/bin"), ("nobody", "/nonexistent")]

/-- The directory that a name after a tilde stands for. -/
def home? (s : Session) (name : Bytes) : Option Bytes :=
  if name.isEmpty then
    (s.text? "HOME".toList).orElse fun _ => if s.isExtended then some "/root".toList else none
  else if s.isExtended && name = ['+'] then s.text? "PWD".toList
  else if s.isExtended && name = ['-'] then s.text? "OLDPWD".toList
  else (homes.lookup (String.ofList name)).map String.toList

/-- Replaces a tilde at the start of a text, and after each colon of a value. -/
def tildeText (s : Session) (assigning isLast : Bool) (start : Bool) : (fuel : Nat) → Bytes → Word
  | 0, text => [.text false text]
  | _, [] => []
  | fuel + 1, text =>
    let upTo (c : Char) : Bool := c ≠ '/' && !(assigning && c = ':')
    let tilde : Option (Bytes × Bytes) :=
      match start, text with
      | true, '~' :: after =>
        let name := after.takeWhile upTo
        let rest := after.drop name.length
        if rest.isEmpty && !isLast then none else (home? s name).map fun dir => (dir, rest)
      | _, _ => none
    let (front, rest) : Word × Bytes :=
      match tilde with
      | some (dir, rest) => ([.text true dir], rest)
      | none => ([], text)
    if assigning then
      let head := rest.takeWhile (· ≠ ':')
      match rest.drop head.length with
      | _ :: after =>
        front ++ [.text false (head ++ [':'])] ++ tildeText s assigning isLast true fuel after
      | [] => front ++ (if head.isEmpty then [] else [.text false head])
    else front ++ (if rest.isEmpty then [] else [.text false rest])

/-- Replaces the tildes of a word. -/
def tildes (s : Session) (assigning : Bool) (start : Bool) : Word → Word
  | [] => []
  | .text false chars :: rest =>
    tildeText s assigning rest.isEmpty start (chars.length + 1) chars ++
      tildes s assigning false rest
  | p :: rest => p :: tildes s assigning false rest

/-- The expansion of what is inside a word. -/
abbrev Inner := Manner → Word → Eval (List Mark)

/-- The pattern that a word stands for. -/
def patternOf (inner : Inner) (w : Word) : Eval Pattern.Glob := do
  let field := marked (← get) (← inner {} w)
  return Pattern.Glob.ofMarked (field.length + 1) field

/-- The text that a word stands for. -/
def textOf (inner : Inner) (w : Word) : Eval Bytes := do
  let marks ← inner {} w
  return flat (← get) marks

/-- The value of an expression in a word. -/
def numberOf (inner : Inner) (w : Word) : Eval Int := do
  arithmetic arithmeticLimit (← textOf inner w)

/-- The letters of the options that are on, in the order in which they are shown. -/
def optionLetters (s : Session) : Bytes :=
  (if s.isExtended then "abefhkmnptuvxBCEHTsc" else "pubaCEVvxsnmiIfe").toList.filter s.has

/-- What there is for a parameter. -/
def find (inner : Inner) (name : Bytes) (index : Index) : Eval Found := do
  let s ← get
  let one (text : Option Bytes) : Found := text.elim .unset .one
  match String.ofList name with
  | "@" => return .many s.arguments false
  | "*" => return .many s.arguments true
  | "#" => return .one (Bytes.ofNat s.arguments.length)
  | "?" => return .one (Bytes.ofNat s.status)
  | "-" => return .one (optionLetters s)
  | "$" => return .one (Bytes.ofNat s.process)
  | "!" => return one (s.lastBackground.map Bytes.ofNat)
  | "0" => return .one s.name
  | _ =>
    if name.all Char.isDigit then return one (s.arguments[(Bytes.toNat? name).getD 0 - 1]?)
    else
      match index, (s.parameter? name).bind (·.value) with
      | _, none =>
        match index with
        | .all | .joined => return .many [] false
        | _ =>
          if s.isExtended && name = "RANDOM".toList then return .one "17767".toList
          else if s.isExtended && name = "LINENO".toList then return .one (Bytes.ofNat s.line)
          else return .unset
      | .none, some v => return one v.asText
      | .all, some v => return .many v.elements false
      | .joined, some v => return .many v.elements true
      | .item w, some (.table items) => return one (items.lookup (← textOf inner w))
      | .item w, some v =>
        let i ← numberOf inner w
        match v with
        | .text t => return if i = 0 || i = -1 then .one t else .unset
        | .list items =>
          let top : Int := (items.getLast?.map fun p => (p.1 : Int) + 1).getD 0
          return one (items.lookup (if i < 0 then i + top else i).toNat)
        | .table _ => return .unset

/-- The expansion of a parameter. -/
def parameter (inner : Inner) (quoted : Bool) (name : Bytes) (index : Index) (edit : Edit) :
    Eval (List Mark) := do
  let found ← find inner name index
  let s ← get
  let inserted (f : Found) : List Mark := insertion s quoted f
  let needed : Eval Unit := do
    match found with
    | .unset => if s.has 'u' then unsetFault name
    | _ => return
  let instead (w : Word) : Eval (List Mark) := do
    let marks ← inner { splits := !quoted } w
    return if quoted && marks.isEmpty then [.hold] else marks
  match edit with
  | .none =>
    needed
    return inserted found
  | .length =>
    needed
    match found with
    | .many texts _ => return inserted (.one (Bytes.ofNat texts.length))
    | .one text => return inserted (.one (Bytes.ofNat text.length))
    | .unset => return inserted (.one ['0'])
  | .keys =>
    match (s.parameter? name).bind (·.value) with
    | some v => return inserted (.many v.keys (index matches .joined))
    | none => return []
  | .indirect =>
    match found with
    | .one text => return inserted (← find inner text .none)
    | _ => return inserted .unset
  | .otherwise orEmpty w => if found.counts orEmpty then return inserted found else instead w
  | .instead orEmpty w =>
    if found.counts orEmpty then instead w else return if quoted then [.hold] else []
  | .assign orEmpty w =>
    if found.counts orEmpty then return inserted found
    else
      let text ← textOf inner w
      if !isName name then
        Eval.fault (if s.isExtended then '$' :: name ++ ": cannot assign in this way".toList
          else name ++ ": bad variable name".toList)
      Eval.assignText name text
      return inserted (.one text)
  | .require orEmpty w =>
    if found.counts orEmpty then return inserted found
    else
      let text ← textOf inner w
      let plain := "parameter ".toList ++
        (match s.isExtended, orEmpty with
        | false, true => "not set or null"
        | true, true => "null or not set"
        | _, false => "not set").toList
      Eval.complain (name ++ ": ".toList ++ (if w.isEmpty then plain else text))
      throw (.failed (if s.isExtended then (if s.label.isEmpty then 1 else 127) else 2))
  | .cut atEnd longest w =>
    needed
    let glob ← patternOf inner w
    return inserted (found.map (if atEnd then cutEnd glob longest else cutStart glob longest))
  | .slice start length =>
    needed
    let start ← numberOf inner start
    let length ← length.mapM (numberOf inner)
    match found with
    | .many texts joined =>
      let texts := if isSpecialList then s.name :: texts else texts
      return inserted (.many (slice start length texts) joined)
    | .one text => return inserted (.one (slice start length text))
    | .unset => return inserted (.one [])
  | .replace place w new =>
    needed
    let glob ← patternOf inner w
    let new ← textOf inner new
    return inserted (found.map (replace glob place new))
  | .recase upper all =>
    needed
    return inserted (found.map (recase upper all))
where
  /-- Whether the parameter is the list of the arguments. -/
  isSpecialList : Bool :=
    name = ['@'] || name = ['*']

/-- What a command prints, without the newlines at the end. -/
def outputOf (r : Runner) (c : Command) : Eval Bytes := do
  let text ←
    match (← get).dialect, c with
    -- the output of a bare redirection is the file
    | .extended, .simple line [] [] [.mk 0 .input w] =>
      Eval.capture r (r.run (.simple line [] [[.text false "cat".toList]] [.mk 0 .input w]))
    | _, c => Eval.capture r (r.run c)
  modify fun s => { s with inserted := some s.status }
  return ((text.filter (· ≠ '\x00')).reverse.dropWhile (· = '\n')).reverse

/-- The expansion of a piece. -/
def piece (r : Runner) (inner : Inner) (manner : Manner) : Piece → Eval (List Mark)
  | .text true [] => return [.hold]
  | .text quoted chars =>
    return chars.map fun c => .glyph ⟨c, quoted, manner.splits && !quoted⟩
  | .parameter quoted name index edit => parameter inner quoted name index edit
  | .output quoted c => do return insertion (← get) quoted (.one (← outputOf r c))
  | .number quoted w => do
    return insertion (← get) quoted (.one (Bytes.ofInt (← numberOf inner w)))
  | .channel _ c => do
    let text ← Eval.capture r (r.run c)
    let id ← Eval.act (Act.addChannel (.source text))
    let used := (← get).streams.map (·.1)
    let n := ((List.range 64).reverse.find? fun n => !used.contains n).getD 63
    modify fun s => { s with streams := (n, id) :: s.streams }
    return glyphs true ("/dev/fd/".toList ++ Bytes.ofNat n)
  | .fault _ written => do
    let s ← get
    Eval.fault (if s.isExtended then "$\x7b".toList ++ written ++ ": bad substitution".toList
      else "Bad substitution".toList)

/-- The expansion of a word; at most `fuel` words are inside each other. -/
def marksWithin (r : Runner) : (fuel : Nat) → Inner
  | 0, _, _ => return []
  | fuel + 1, manner, w => do
    let mut marks : Array (List Mark) := #[]
    for p in tildes (← get) manner.assigning true w do
      marks := marks.push (← piece r (marksWithin r fuel) manner p)
    return marks.toList.flatten

/-- How many words may be inside each other. -/
def depthLimit : Nat := 256

/-- The expansion of a word. -/
def marks (r : Runner) (manner : Manner) (w : Word) : Eval (List Mark) :=
  marksWithin r depthLimit manner w

/-- The text that a word stands for. -/
def text (r : Runner) (w : Word) : Eval Bytes :=
  textOf (marksWithin r depthLimit) w

/-- The value that a word stands for. -/
def value (r : Runner) (w : Word) : Eval Bytes := do
  let ms ← marks r { assigning := true } w
  return flat (← get) ms

/-- The pattern that a word stands for. -/
def pattern (r : Runner) (w : Word) : Eval Pattern.Glob :=
  patternOf (marksWithin r depthLimit) w

/-- The number that an expression in a word has. -/
def number (r : Runner) (w : Word) : Eval Int :=
  numberOf (marksWithin r depthLimit) w

/-! ### Braces -/

/-- An item of a word in which braces are looked for. -/
inductive Item where
  | char (c : Char)
  | piece (p : Piece)

/-- The items of a word. -/
def items (w : Word) : List Item :=
  w.flatMap fun
    | .text false chars => chars.map .char
    | p => [.piece p]

/-- The word of some items. -/
def ofItems : List Item → Word
  | [] => []
  | .char c :: rest =>
    match ofItems rest with
    | .text false chars :: more => .text false (c :: chars) :: more
    | more => .text false [c] :: more
  | .piece p :: rest => p :: ofItems rest

/-- Cuts what is in braces, after the opening one, at the commas that are in no other
    braces; gives the parts and what follows the closing brace. -/
def cutBraces : (depth : Nat) → List Item → Option (List (List Item) × List Item)
  | _, [] => none
  | depth, item :: rest =>
    let add (p : List (List Item) × List Item) : List (List Item) × List Item :=
      match p with
      | (part :: parts, after) => ((item :: part) :: parts, after)
      | ([], after) => ([[item]], after)
    match item, depth with
    | .char '}', 0 => some ([[]], rest)
    | .char ',', 0 => (cutBraces 0 rest).map fun (parts, after) => ([] :: parts, after)
    | .char '}', depth + 1 => (cutBraces depth rest).map add
    | .char '{', depth => (cutBraces (depth + 1) rest).map add
    | _, depth => (cutBraces depth rest).map add

/-- The texts of a range. -/
def range? (part : List Item) : Option (List Bytes) :=
  match plainText? (ofItems part) with
  | none => none
  | some text =>
    let (first, rest) := cutDots text
    match rest with
    | none => none
    | some rest =>
      let (last, step) := cutDots rest
      let step : Int := ((step.bind Bytes.toInt?).getD 1).natAbs
      let step := if step = 0 then 1 else step
      match Bytes.toInt? first, Bytes.toInt? last, first, last with
      | some a, some b, _, _ =>
        let isPadded (t : Bytes) : Bool := 1 < t.length && (t.head? = some '0' || "-0".toList.isPrefixOf t)
        let width := if isPadded first || isPadded last then max first.length last.length else 0
        let count := ((b - a).natAbs / step.toNat) + 1
        some ((List.range count).map fun (k : Nat) =>
          let n := if a ≤ b then a + step * k else a - step * k
          let digits := Bytes.padLeft (width - (if n < 0 then 1 else 0)) '0' (Bytes.ofNat n.natAbs)
          if n < 0 then '-' :: digits else digits)
      | _, _, [c], [d] =>
        if c.isAlpha && d.isAlpha then
          let count := (((d.toNat : Int) - c.toNat).natAbs / step.toNat) + 1
          some ((List.range count).map fun k =>
            [Char.ofNat (if c ≤ d then c.toNat + step.toNat * k else c.toNat - step.toNat * k)])
        else none
      | _, _, _, _ => none
where
  /-- Cuts a text at two dots. -/
  cutDots : Bytes → Bytes × Option Bytes
    | '.' :: '.' :: rest => ([], some rest)
    | c :: rest =>
      let (a, b) := cutDots rest
      (c :: a, b)
    | [] => ([], none)

/-- The words that a word with braces stands for. -/
def bracesOf : (fuel : Nat) → List Item → List (List Item)
  | 0, is => [is]
  | _, [] => [[]]
  | fuel + 1, .char '{' :: rest =>
    let plain := (bracesOf fuel rest).map fun w => .char '{' :: w
    match cutBraces 0 rest with
    | some ([part], after) =>
      match range? part with
      | some texts =>
        texts.flatMap fun t => (bracesOf fuel after).map fun w => t.map .char ++ w
      | none => plain
    | some (parts, after) =>
      let ends := bracesOf fuel after
      parts.flatMap fun part =>
        (bracesOf fuel part).flatMap fun w => ends.map fun e => w ++ e
    | none => plain
  | fuel + 1, item :: rest => (bracesOf fuel rest).map fun w => item :: w

/-- The words that a word with braces stands for, in the extended shell. -/
def braces (s : Session) (w : Word) : List Word :=
  if s.isExtended && (items w).any (fun | .char '{' => true | _ => false) then
    (bracesOf ((items w).length + 1) (items w)).map ofItems
  else [w]

/-! ### Fields -/

/-- The fields that a word stands for. -/
def fieldsOf (r : Runner) (w : Word) : Eval (List Bytes) := do
  let ms ← marks r {} w
  let s ← get
  let files := (← Eval.act get).files
  return (split s.separators ms).flatMap (withPaths files s)

/-- The fields that words stand for. -/
def fields (r : Runner) (ws : List Word) : Eval (List Bytes) := do
  let s ← get
  let found ← (ws.flatMap (braces s)).mapM (fieldsOf r)
  return found.flatten

end Expand

end Lifelines.Shell
