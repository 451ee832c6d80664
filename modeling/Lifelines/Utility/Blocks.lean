import Lifelines.Utility.Entries

/-!
# Blocks and pieces

Utilities that copy a text in blocks or cut it into files.

* `dd`, `split`.
-/

namespace Lifelines.Utility

/-! ### Copies in blocks -/

/-- What a copy in blocks is asked for: names and values. -/
structure BlockOrder where
  given : List (Bytes × Bytes)

namespace BlockOrder

/-- The value that is given last for a name. -/
def value? (o : BlockOrder) (name : String) : Option Bytes :=
  o.given.reverse.lookup name.toList

/-- The names that mean something. -/
def names : List String :=
  ["if", "of", "bs", "ibs", "obs", "cbs", "count", "skip", "seek", "iseek", "oseek", "conv", "status",
    "iflag", "oflag"]

/-- The number that is given for a name. -/
def number (o : BlockOrder) (name : String) (default : Nat) : Nat :=
  ((o.value? name).bind readSize?).getD default

/-- Whether a word is among those given for a name. -/
def hasFlag (o : BlockOrder) (name flag : String) : Bool :=
  ((o.value? name).map fun v => (Bytes.splitOn ',' v).contains flag.toList).getD false

end BlockOrder

/-- How many whole blocks there are in a number of bytes, and whether there is one more. -/
def blockCounts (bytes size : Nat) : Bytes :=
  Bytes.ofNat (bytes / size) ++ ['+'] ++ Bytes.ofNat (if bytes % size = 0 then 0 else 1)

/-- Swaps each two bytes. -/
def swapPairs : Bytes → Bytes
  | a :: b :: rest => b :: a :: swapPairs rest
  | rest => rest

/-- Copies a text in blocks. -/
def dd : Work Nat := do
  let args := (← read).args
  let pairs := args.map fun word => (word.takeWhile (· ≠ '='), (word.dropWhile (· ≠ '=')).drop 1)
  match (args.zip pairs).find? fun p => !p.1.contains '=' || !BlockOrder.names.contains (String.ofList p.2.1) with
  | some (word, _) => misuse 1 ("unrecognized operand ".toList ++ quoted word)
  | none =>
    let o : BlockOrder := ⟨pairs⟩
    let numeric := ["bs", "ibs", "obs", "cbs", "count", "skip", "seek", "iseek", "oseek"]
    match numeric.findSome? fun n => (o.value? n).bind fun v => if (readSize? v).isNone then some v else none with
    | some word => Work.fail 1 ("invalid number: ".toList ++ quoted word)
    | none =>
      let inSize := max 1 (o.number "bs" (o.number "ibs" 512))
      let outSize := max 1 (o.number "bs" (o.number "obs" 512))
      let opened ←
        match o.value? "if" with
        | some path => Act.openForReading (← read).streams path
        | none => pure (((← read).streams.lookup 0).elim (.error .notFound) .ok)
      match opened with
      | .error e => Work.fail 1 ("failed to open ".toList ++ quoted ((o.value? "if").getD []) ++ ": ".toList ++ e.reason)
      | .ok source =>
        if ← Act.isDirectoryChannel source then
          return ← Work.fail 1 ("error reading ".toList ++ quoted ((o.value? "if").getD []) ++ ": Is a directory".toList)
        let skipped := o.number "skip" (o.number "iseek" 0) * (if o.hasFlag "iflag" "skip_bytes" then 1 else inSize)
        Act.skip source skipped
        let limit? := (o.value? "count").bind readSize?
        let available ← Act.pending source
        let text :=
          match limit? with
          | some n =>
            let wanted := n * (if o.hasFlag "iflag" "count_bytes" then 1 else inSize)
            available.take wanted ++
              (if available.length = Act.zeroBlock && available.all (· = '\x00') then
                List.replicate (wanted - available.length) '\x00' else [])
          | none => available
        Act.skip source text.length
        let text := if o.hasFlag "conv" "ucase" then Bytes.toUpper text else text
        let text := if o.hasFlag "conv" "lcase" then Bytes.toLower text else text
        let text := if o.hasFlag "conv" "swab" then swapPairs text else text
        let seek := o.number "seek" (o.number "oseek" 0) * outSize
        let result : Except FileError Unit ←
          match o.value? "of" with
          | none =>
            Work.say text
            pure (.ok ())
          | some path =>
            let before := ((← Act.readFile (← read).streams path).toOption).getD []
            let kept := if o.hasFlag "conv" "notrunc" then before else before.take seek
            if o.hasFlag "oflag" "append" || (Act.streamOf? path).isSome then Work.store path (before ++ text)
            else Work.store path (Act.overwrite kept seek text)
        match result with
        | .error e => Work.fail 1 ("failed to open ".toList ++ quoted ((o.value? "of").getD []) ++ ": ".toList ++ e.reason)
        | .ok _ =>
          let status := String.ofList ((o.value? "status").getD [])
          if status ≠ "none" then
            Work.note (blockCounts text.length inSize ++ " records in".toList)
            Work.note (blockCounts text.length outSize ++ " records out".toList)
            if status ≠ "noxfer" then
              Work.note (Bytes.ofNat text.length ++ (if text.length = 1 then " byte" else " bytes").toList ++
                " copied, 0 s, Infinity B/s".toList)
          return 0

/-! ### Pieces -/

/-- The ending of the name of the `n`-th piece. -/
def pieceEnding (digits : Bool) (width n : Nat) : Bytes :=
  let base := if digits then 10 else 26
  let sign (k : Nat) : Char := Char.ofNat ((if digits then '0' else 'a').toNat + k)
  ((List.range width).map fun k => sign (n / Nat.pow base (width - 1 - k) % base))

/-- Cuts a list into pieces of a length. -/
def piecesOf {α : Type} (length : Nat) : (fuel : Nat) → List α → List (List α)
  | 0, _ => []
  | fuel + 1, items =>
    if items.isEmpty then [] else items.take length :: piecesOf length fuel (items.drop length)

/-- Cuts a text into files. -/
def split : Work Nat :=
  let names := [("bytes", 'b'), ("lines", 'l'), ("number", 'n'), ("suffix-length", 'a'),
    ("numeric-suffixes", 'd'), ("line-bytes", 'C')]
  withOptions { letters := letters "a:b:C:dl:n:eu", names := names } fun g => do
    let path := g.operands.headD ['-']
    let start := ((g.operands[1]?)).getD ['x']
    match ← Work.contents path with
    | .error e =>
      Work.fail 1 ("cannot open ".toList ++ quoted path ++ " for reading: ".toList ++ e.reason)
    | .ok text =>
      let number (c : Char) (default : Nat) : Nat := ((g.value? c).bind readSize?).getD default
      let fuel := text.length + 1
      let pieces : List Bytes :=
        if g.has 'b' then piecesOf (max 1 (number 'b' 1)) fuel text
        else if g.has 'n' then
          let count := max 1 (number 'n' 1)
          let size := text.length / count
          (List.range count).map fun k =>
            if k + 1 = count then text.drop (k * size) else (text.drop (k * size)).take size
        else (piecesOf (max 1 (number 'l' 1000)) fuel (Bytes.fullLines text)).map List.flatten
      let width := number 'a' 2
      let mut status := 0
      for (piece, n) in pieces.zipIdx do
        let name := start ++ pieceEnding (g.has 'd') width n
        match ← Work.store name piece with
        | .ok _ => pure ()
        | .error e =>
          Work.complain (plainComplaint name e)
          status := 1
      return status

end Lifelines.Utility
