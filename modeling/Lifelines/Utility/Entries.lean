import Lifelines.Utility.Excerpt
import Lifelines.Utility.Permission

/-!
# Making, copying and removing

Utilities that change what is in a directory. What is copied or moved goes to
the path that is named last, or, if that is a directory, into it.

* `mkdir`, `rmdir`, `touch`, `truncate`: directories and files made and changed;
* `rm`: files and directories removed;
* `cp`, `mv`, `ln`, `install`: files copied and moved.
-/

namespace Lifelines.Utility

/-- A path in quotes and what is wrong with it. -/
def blame (action : String) (path : Bytes) (e : FileError) : Work Unit :=
  Work.complain (failedTo action path e)

/-- Asks a question, if it is to be asked; the answer is yes if it starts with the
    letter. -/
def confirmed (asks : Bool) (question : Bytes) : Work Bool := do
  if !asks then return true
  Work.put 2 ((← read).name ++ ": ".toList ++ question ++ "? ".toList)
  match (← read).streams.lookup 0 with
  | some id =>
    let answer ← Act.readLine id
    return answer.head? = some 'y' || answer.head? = some 'Y'
  | none => return false

/-! ### Directories -/

/-- The directories that lead to a path, and the path itself. -/
def stages (path : Bytes) : List Bytes :=
  let pieces := Bytes.splitOn '/' path
  let paths := (List.range pieces.length).map fun n => Bytes.join ['/'] (pieces.take (n + 1))
  (paths.zip pieces).filterMap fun (p, piece) => if piece.isEmpty then none else some p

/-- Makes directories. -/
def mkdir : Work Nat :=
  let names := [("parents", 'p'), ("verbose", 'v'), ("mode", 'm')]
  withOptions { letters := letters "m:pvZ", names := names } fun g => do
    if g.operands.isEmpty then return ← missingOperand []
    match g.value? 'm' with
    | some mode =>
      if (Permission.change? mode true 0).isNone then
        return ← Work.fail 1 ("invalid mode ".toList ++ quoted mode)
    | none => pure ()
    let mut status := 0
    for path in g.operands do
      let wanted := if g.has 'p' && !path.isEmpty then stages path else [path]
      let mut going := true
      for stage in wanted do
        if going then
          match ← Act.filing (Filing.makeDirectory stage.toText) with
          | .ok _ =>
            if g.has 'v' then Work.sayLine ((← read).name ++ ": created directory ".toList ++ quoted stage)
          | .error e =>
            let there := (← Act.kind? stage) == some .directory
            if !(g.has 'p' && there) then
              blame "cannot create directory" stage (← reasonFor stage (wanted.getLast? = some stage) e)
              status := 1
              going := false
    return status
where
  /-- What is wrong with a directory that is to be made: a file that is there already
      is in the way of those below it. -/
  reasonFor (stage : Bytes) (last : Bool) (e : FileError) : Work FileError := do
    if e = .alreadyExists && !last then
      match ← Act.kind? stage with
      | some .directory => return e
      | _ => return .notDirectory
    return e

/-- Removes empty directories. -/
def rmdir : Work Nat :=
  let names := [("parents", 'p'), ("verbose", 'v'), ("ignore-fail-on-non-empty", 'I')]
  withOptions { letters := letters "pvI", names := names } fun g => do
    if g.operands.isEmpty then return ← missingOperand []
    let mut status := 0
    for path in g.operands do
      let wanted := if g.has 'p' then (stages path).reverse else [path]
      let mut going := true
      for stage in wanted do
        if going then
          if g.has 'v' then
            Work.sayLine ((← read).name ++ ": removing directory, ".toList ++ quoted stage)
          if baseName stage = ['.'] then
            Work.complain ("failed to remove ".toList ++ quoted stage ++ ": Invalid argument".toList)
            status := 1
            going := false
          else
            match ← Act.filing (Filing.removeDirectory stage.toText) with
            | .ok _ => pure ()
            | .error e =>
              going := false
              if !(g.has 'I' && e = .notEmpty) then
                blame "failed to remove" stage e
                status := 1
    return status

/-! ### Files -/

/-- Makes files that are not there. -/
def touch : Work Nat :=
  let names := [("no-create", 'c'), ("date", 'd'), ("reference", 'r'), ("time", 'T')]
  withOptions { letters := letters "acd:fhmr:t:T:", names := names } fun g => do
    if g.operands.isEmpty then return ← misuse 1 "missing file operand".toList
    match g.value? 'r' with
    | some other =>
      match ← Act.kind other with
      | .error e => return ← Work.fail 1 (failedTo "failed to get attributes of" other e)
      | .ok _ => pure ()
    | none => pure ()
    let mut status := 0
    for path in g.operands do
      match ← Act.kind path with
      | .ok _ => pure ()
      | .error e =>
        if path = ['-'] || (g.has 'c' && e = .notFound) then pure ()
        else if path.getLast? = some '/' || path.isEmpty then
          blame (if path.isEmpty then "cannot touch" else "setting times of") path e
          status := 1
        else
          match ← Work.store path [] with
          | .ok _ => pure ()
          | .error e =>
            blame "cannot touch" path e
            status := 1
    return status

/-- The size that a word asks for, a file being as large as it is. -/
def newSize? (word : Bytes) (size : Nat) : Option Nat :=
  match word with
  | '+' :: n => (readSize? n).map (size + ·)
  | '-' :: n => (readSize? n).map (size - ·)
  | '<' :: n => (readSize? n).map (min size ·)
  | '>' :: n => (readSize? n).map (max size ·)
  | '/' :: n => (readSize? n).bind fun k => if k = 0 then none else some (size / k * k)
  | '%' :: n => (readSize? n).bind fun k => if k = 0 then none else some ((size + k - 1) / k * k)
  | n => readSize? n

/-- Cuts files to a size, or fills them up to it. -/
def truncate : Work Nat :=
  let names := [("no-create", 'c'), ("size", 's'), ("reference", 'r'), ("io-blocks", 'o')]
  withOptions { letters := letters "cor:s:", names := names } fun g => do
    let word? : Option Bytes ←
      match g.value? 's', g.value? 'r' with
      | some w, _ => pure (some w)
      | none, some other =>
        match ← Act.kind other with
        | .ok (.file n _) => pure (some (Bytes.ofNat n))
        | .ok _ => pure (some ['0'])
        | .error e => return ← Work.fail 1 (failedTo "cannot stat" other e)
      | none, none => pure none
    match word? with
    | none => misuse 1 "you must specify either '--size' or '--reference'".toList
    | some word =>
      if (newSize? word 0).isNone then
        return ← Work.fail 1 ("Invalid number: ".toList ++ quoted word)
      if g.operands.isEmpty then return ← misuse 1 "missing file operand".toList
      let mut status := 0
      for path in g.operands do
        let before : Except FileError Bytes ←
          match ← Act.readFile (← read).streams path with
          | .error .notFound => pure (.ok [])
          | other => pure other
        if g.has 'c' && (← Act.kind? path).isNone then continue
        let result : Except FileError Unit ←
          match before with
          | .error e => pure (.error e)
          | .ok text =>
            let size := (newSize? word text.length).getD 0
            Work.store path (text.take size ++ List.replicate (size - text.length) '\x00')
        match result with
        | .ok _ => pure ()
        | .error e =>
          Work.complain ("cannot open ".toList ++ quoted path ++ " for writing: ".toList ++ e.reason)
          status := 1
      return status

/-! ### Removing -/

/-- What a file that is to be removed is called. -/
def kindName : Act.FileKind → String
  | .file 0 _ => "regular empty file"
  | .file _ _ => "regular file"
  | .directory => "directory"
  | .device => "character special file"

/-- What has become of something that was to be removed. -/
inductive Removal where
  | gone
  /-- It has been kept, as asked for. -/
  | kept
  | failed
  deriving DecidableEq

/-- Removes a file or an empty directory. -/
def removeOne (g : Given) (path : Bytes) (directory : Bool) : Work Removal := do
  let remove : Filing Unit :=
    if directory then Filing.removeDirectory path.toText else Filing.remove path.toText
  match ← Act.filing remove with
  | .ok _ =>
    if g.has 'v' then
      Work.sayLine ("removed ".toList ++ (if directory then "directory ".toList else []) ++ quoted path)
    return .gone
  | .error e =>
    blame "cannot remove" path e
    return .failed

/-- Removes what is at a path, and what is below it, as the options say. The tree is at
    most `fuel` deep. -/
def removeAll (g : Given) : (fuel : Nat) → (path : Bytes) → Work Removal
  | 0, _ => return .failed
  | fuel + 1, path => do
    let asks := g.lastOf "fi" = some 'i'
    match ← Act.kind path with
    | .error e =>
      if g.has 'f' && (e = .notFound || e = .notDirectory) then return .gone
      blame "cannot remove" path e
      return .failed
    | .ok .directory =>
      if !(g.has 'r' || g.has 'R' || g.has 'd') then
        blame "cannot remove" path .isDirectory
        return .failed
      let files ← Work.files
      let l := (files.locate path.toText).toOption.getD []
      let children := if g.has 'r' || g.has 'R' then files.names l else []
      if !children.isEmpty then
        if !(← confirmed asks ("descend into directory ".toList ++ quoted path)) then return .kept
      let mut left := Removal.gone
      for child in children do
        match ← removeAll g fuel (inside path (Bytes.ofString child)) with
        | .gone => pure ()
        | other => left := other
      if left ≠ .gone then return left
      if !(← confirmed asks ("remove directory ".toList ++ quoted path)) then return .kept
      removeOne g path true
    | .ok kind =>
      if !(← confirmed asks ("remove ".toList ++ (kindName kind).toList ++ [' '] ++ quoted path)) then
        return .kept
      removeOne g path false

/-- Removes files and directories. -/
def rm : Work Nat :=
  let names := [("force", 'f'), ("interactive", 'i'), ("recursive", 'r'), ("dir", 'd'),
    ("verbose", 'v'), ("one-file-system", 'o'), ("preserve-root", 'o'), ("no-preserve-root", 'o')]
  withOptions { letters := letters "dfirvRIo", names := names } fun g => do
    if g.operands.isEmpty && !g.has 'f' then return ← missingOperand []
    let mut status := 0
    for path in g.operands do
      let last := baseName path
      if (last = ['.'] || last = ['.', '.']) && (g.has 'r' || g.has 'R') then
        Work.complain ("refusing to remove '.' or '..' directory: skipping ".toList ++ quoted path)
        status := 1
      else
        let depth := (← Work.files).entries.length + 2
        if (← removeAll g depth path) = .failed then status := 1
    return status

/-! ### Copying and moving -/

/-- Where several things go. -/
structure Destination where
  /-- The path, or the directory that they go into. -/
  path : Bytes
  intoDirectory : Bool

/-- The path for something that goes to a destination. -/
def Destination.of (d : Destination) (source : Bytes) : Bytes :=
  if d.intoDirectory then inside d.path (baseName source) else d.path

/-- Finds out what goes where: operands and the options `t` and `T`. -/
def destination (g : Given) (use : List Bytes → Destination → Work Nat) : Work Nat := do
  match g.value? 't', g.operands with
  | some directory, sources =>
    if sources.isEmpty then misuse 1 "missing file operand".toList
    else
      match ← Act.kind directory with
      | .ok .directory => use sources ⟨directory, true⟩
      | .ok _ => Work.fail 1 (failedTo "target directory" directory .notDirectory)
      | .error e => Work.fail 1 (failedTo "target directory" directory e)
  | none, [] => misuse 1 "missing file operand".toList
  | none, [path] => misuse 1 ("missing destination file operand after ".toList ++ quoted path)
  | none, operands =>
    let target := operands.getLast?.getD []
    let sources := operands.dropLast
    if g.has 'T' then
      if 1 < sources.length then misuse 1 ("extra operand ".toList ++ quoted target)
      else use sources ⟨target, false⟩
    else
      match ← Act.kind target with
      | .ok .directory => use sources ⟨target, true⟩
      | .ok _ =>
        if 1 < sources.length then Work.fail 1 (failedTo "target" target .notDirectory)
        else use sources ⟨target, false⟩
      | .error e =>
        if 1 < sources.length then Work.fail 1 (failedTo "target" target e)
        else use sources ⟨target, false⟩

/-- The location that a path leads to, if it leads anywhere in the tree. -/
def locationOf? (path : Bytes) : Work (Option Location) := do
  return ((← Work.files).locate path.toText).toOption

/-- Says what has been done with two paths. -/
def sayPair (action : String) (source target : Bytes) : Work Unit :=
  Work.sayLine (action.toList ++ quoted source ++ " -> ".toList ++ quoted target)

/-- Copies a file over what is at a path; answers whether it has been done. -/
def copyFile (g : Given) (source target : Bytes) (executable : Bool) : Work Bool := do
  let there ← Act.kind? target
  match ← Act.readFile (← read).streams source with
  | .error e =>
    Work.complain ("cannot open ".toList ++ quoted source ++ " for reading: ".toList ++ e.reason)
    return false
  | .ok text =>
    let same ← do
      match ← locationOf? source, ← locationOf? target with
      | some a, some b => pure (a = b && there.isSome)
      | _, _ => pure false
    if same then
      Work.complain (quoted source ++ " and ".toList ++ quoted target ++ " are the same file".toList)
      return false
    if there.isSome && g.lastOf "nif" = some 'n' then return true
    let asks := there.isSome && g.lastOf "nif" = some 'i'
    if !(← confirmed asks ("overwrite ".toList ++ quoted target)) then return false
    match ← Work.store target text with
    | .ok _ =>
      if there.isNone || g.has 'p' || g.has 'a' then
        let permit : Filing Unit := Filing.setExecutable target.toText executable
        let _ ← Act.filing permit
      if g.has 'v' then sayPair "" source target
      return true
    | .error e =>
      let e := if target.getLast? = some '/' then .notDirectory else e
      blame "cannot create regular file" target e
      return false

/-- Copies a directory with what is in it; answers whether it has been done. -/
def copyDirectory (g : Given) (source target : Bytes) : Work Bool := do
  match ← locationOf? source, ← locationOf? (stripSlashes target) with
  | some a, some b =>
    let below := ((← Work.files).below a).mergeSort fun x y => !(y.1 < x.1)
    -- a copy inside of the directory itself is not copied
    let below := below.filter fun entry => !b.isPrefixOf (a ++ entry.1)
    let within := a.isPrefixOf b
    let mut done := true
    let items := ([], Node.directory) :: if within && a = b then [] else below
    for (names, node) in items do
      let start := if names.isEmpty then source else inside source (Bytes.join ['/'] (names.map Bytes.ofString))
      let goal := if names.isEmpty then target else inside target (Bytes.join ['/'] (names.map Bytes.ofString))
      match node with
      | .file _ executable => if !(← copyFile g start goal executable) then done := false
      | .directory =>
        match ← Act.kind? goal with
        | some .directory => pure ()
        | some _ =>
          Work.complain ("cannot overwrite non-directory ".toList ++ quoted goal ++
            " with directory ".toList ++ quoted start)
          return false
        | none =>
          match ← Act.filing (Filing.makeDirectory goal.toText) with
          | .ok _ => if g.has 'v' then sayPair "" start goal
          | .error e =>
            blame "cannot create directory" goal e
            return false
    if within then
      Work.complain ("cannot copy a directory, ".toList ++ quoted source ++ ", into itself, ".toList ++
        quoted target)
      return false
    return done
  | _, none =>
    blame "cannot create directory" target .notFound
    return false
  | none, _ => return false

/-- Copies files and directories. -/
def cp : Work Nat :=
  let names := [("archive", 'a'), ("force", 'f'), ("interactive", 'i'), ("no-clobber", 'n'),
    ("recursive", 'r'), ("target-directory", 't'), ("no-target-directory", 'T'), ("update", 'u'),
    ("verbose", 'v'), ("link", 'l'), ("symbolic-link", 's'), ("no-dereference", 'P'),
    ("dereference", 'L'), ("preserve", 'p'), ("parents", 'D')]
  withOptions { letters := letters "abdfHilLnprst:uvxPRTD", names := names } fun g => do
    let recursive := g.has 'r' || g.has 'R' || g.has 'a'
    destination g fun sources d => do
      let mut status := 0
      for source in sources do
        let target := d.of source
        let targetKind ← Act.kind target
        match ← Act.kind source with
        | .error e =>
          blame "cannot stat" source e
          status := 1
        | .ok .directory =>
          if !recursive then
            Work.complain ("-r not specified; omitting directory ".toList ++ quoted source)
            status := 1
          else
            match targetKind with
            | .ok .directory | .error _ =>
              if !(← copyDirectory g source target) then status := 1
            | .ok _ =>
              Work.complain ("cannot overwrite non-directory ".toList ++ quoted target ++
                " with directory ".toList ++ quoted source)
              status := 1
        | .ok kind =>
          match targetKind with
          | .ok .directory =>
            Work.complain ("cannot overwrite directory ".toList ++ quoted target ++
              " with non-directory".toList)
            status := 1
          | .error .notDirectory =>
            blame "cannot stat" target .notDirectory
            status := 1
          | _ => if !(← copyFile g source target (kind matches .file _ true)) then status := 1
      return status

/-- Moves files and directories. -/
def mv : Work Nat :=
  let names := [("force", 'f'), ("interactive", 'i'), ("no-clobber", 'n'),
    ("target-directory", 't'), ("no-target-directory", 'T'), ("update", 'u'), ("verbose", 'v')]
  withOptions { letters := letters "bfint:uvT", names := names } fun g => do
    destination g fun sources d => do
      let mut status := 0
      for source in sources do
        if !(← move g source (d.of source)) then status := 1
      return status
where
  /-- Moves one file or directory. -/
  move (g : Given) (source target : Bytes) : Work Bool := do
    let targetKind ← Act.kind target
    match ← Act.kind source with
    | .error e =>
      blame "cannot stat" source e
      return false
    | .ok kind =>
      let directory := kind = .directory
      match ← locationOf? source, ← locationOf? (if directory then stripSlashes target else target) with
      | some a, some b =>
        let there := targetKind.toOption
        if (← Work.files).here = a || a.isEmpty then
          Work.complain ("cannot move ".toList ++ quoted source ++ " to ".toList ++ quoted target ++
            ": Device or resource busy".toList)
          return false
        if a = b && there.isSome then
          Work.complain (quoted source ++ " and ".toList ++ quoted target ++ " are the same file".toList)
          return false
        if there.isSome && g.lastOf "nif" = some 'n' then return true
        match there with
        | some .directory =>
          if !directory then
            Work.complain ("cannot overwrite directory ".toList ++ quoted target ++
              " with non-directory".toList)
            return false
        | some _ =>
          if directory then
            Work.complain ("cannot overwrite non-directory ".toList ++ quoted target ++
              " with directory ".toList ++ quoted source)
            return false
        | none => pure ()
        if a.isPrefixOf b then
          Work.complain ("cannot move ".toList ++ quoted source ++ " to a subdirectory of itself, ".toList ++
            quoted target)
          return false
        if directory && !((← Work.files).below b).isEmpty then
          Work.complain ("cannot overwrite ".toList ++ quoted target ++ ": Directory not empty".toList)
          return false
        let asks := there.isSome && g.lastOf "nif" = some 'i'
        if !(← confirmed asks ("overwrite ".toList ++ quoted target)) then return true
        modifyThe World fun w => { w with files := w.files.move a b }
        if g.has 'v' then sayPair "renamed " source target
        return true
      | some _, none =>
        -- a file that stands for a device takes what is moved to it
        match targetKind with
        | .ok .device =>
          let done ← copyFile g source target false
          if done then
            let _ ← Act.filing (Filing.remove source.toText)
          return done
        | _ =>
          let found := (← Work.files).locate target.toText
          let e : FileError :=
            match target.getLast?, found with
            | some '/', _ | _, .ok _ => .notDirectory
            | _, .error e => e
          Work.complain ("cannot move ".toList ++ quoted source ++ " to ".toList ++ quoted target ++
            ": ".toList ++ e.reason)
          return false
      | none, _ => return false

/-- Gives files further names. A name is a file of its own here. -/
def ln : Work Nat :=
  let names := [("symbolic", 's'), ("force", 'f'), ("verbose", 'v'), ("no-dereference", 'n'),
    ("target-directory", 't'), ("no-target-directory", 'T'), ("interactive", 'i'), ("relative", 'r')]
  withOptions { letters := letters "bdfFiLnPrst:Tv", names := names } fun g => do
    let link := if g.has 's' then "symbolic link" else "hard link"
    let operands := if g.operands.length = 1 && (g.value? 't').isNone then g.operands ++ [['.']] else g.operands
    destination { g with operands := operands } fun sources d => do
      let mut status := 0
      for source in sources do
        let target := d.of source
        match ← Act.kind source with
        | .error e =>
          if !g.has 's' then
            blame "failed to access" source e
            status := 1
        | .ok .directory =>
          if !g.has 's' then
            Work.complain (source ++ ": hard link not allowed for directory".toList)
            status := 1
        | .ok kind =>
          if (← Act.kind? target).isSome && !g.has 'f' then
            blame ("failed to create " ++ link) target .alreadyExists
            status := 1
          else
            let text := ((← Act.readFile (← read).streams source).toOption).getD []
            match ← Work.store target text with
            | .error e =>
              blame ("failed to create " ++ link) target e
              status := 1
            | .ok _ =>
              let permit : Filing Unit := Filing.setExecutable target.toText (kind matches .file _ true)
              let _ ← Act.filing permit
              if g.has 'v' then
                Work.sayLine (quoted target ++ (if g.has 's' then " -> " else " => ").toList ++ quoted source)
      return status

/-- Copies programs to where they belong, or makes directories. -/
def install : Work Nat :=
  let names := [("directory", 'd'), ("mode", 'm'), ("target-directory", 't'), ("verbose", 'v'),
    ("no-target-directory", 'T'), ("owner", 'o'), ("group", 'g')]
  withOptions { letters := letters "bcCdDg:m:o:pst:Tv", names := names } fun g => do
    let mode := (Permission.change? ((g.value? 'm').getD "755".toList) false 0).getD 0o755
    if g.has 'd' then
      if g.operands.isEmpty then return ← misuse 1 "missing file operand".toList
      let mut status := 0
      for path in g.operands do
        match ← Act.filing (Filing.makeDirectories path.toText) with
        | .ok _ => pure ()
        | .error e =>
          blame "cannot create directory" path e
          status := 1
      return status
    if g.has 'D' then
      match g.operands.getLast? with
      | some target =>
        let make : Filing Unit := Filing.makeDirectories (dirName target).toText
        let _ ← Act.filing make
      | none => pure ()
    destination g fun sources d => do
      let mut status := 0
      for source in sources do
        match ← Act.kind source with
        | .error e =>
          blame "cannot stat" source e
          status := 1
        | .ok .directory =>
          Work.complain ("omitting directory ".toList ++ quoted source)
          status := 1
        | .ok _ =>
          let plain : Given := { options := (g.options.filter (·.1 = 'v')) ++ [('p', [])] }
          if !(← copyFile plain source (d.of source) (Permission.isExecutable mode)) then status := 1
      return status

end Lifelines.Utility
