import Lifelines.Document
import Lifelines.Environment
import Lifelines.Files.Change
import Lifelines.Format
import Lifelines.Text.Blank
import Lifelines.Text.Utf8
import Lifelines.Tool

/-!
# Rendering

A layout tool is started with a pic file and prints an image, which is written
to a file. The pic file is either kept beside the image or is a scratch file
that is gone afterwards. The image file is not touched before the tool has
ended well.

* `RenderError`: why there is no image;
* `Renderer.render`: a document rendered to a file.
-/

namespace Lifelines

/-- Why there is no image. -/
inductive RenderError where
  /-- The tool cannot be started. -/
  | spawn (program : String) (error : FileError)
  /-- A file is not accessible. -/
  | io (error : FileError)
  /-- The tool has failed; it has printed this about it. -/
  | toolFailed (program : String) (status : ExitStatus) (stderr : String)
  /-- The tool has printed nothing. -/
  | emptyOutput (program : String)
  deriving Repr

/-- The message for a missing image. -/
def RenderError.message : RenderError → String
  | spawn program error => "failed to launch " ++ program ++ ": " ++ error.message
  | io error => "I/O error while rendering: " ++ error.message
  | toolFailed program status stderr =>
    program ++ " exited with " ++ status.text ++ ": " ++ stderr
  | emptyOutput program => program ++ " produced no output"

/-- A layout tool and how it is used. -/
structure Renderer where
  /-- The program to start. -/
  program : String
  /-- What comes before the arguments for format and file. -/
  args : List String := []
  /-- The macro library. -/
  library : String
  /-- Whether the pic file is kept beside the image. -/
  keepSource : Bool := false
  deriving DecidableEq, Repr

/-- Computations that change files and may fail to give an image. -/
abbrev Rendering := ExceptT RenderError (StateM FileTree)

namespace Renderer

/-- The layout tool that is used unless another is asked for. -/
def defaultProgram : String := "pic2plot"

/-- The default tool with the macro library where it is found, or else where it
    would be in the working directory. -/
def standard (env : Environment) (files : FileTree) : Renderer where
  program := defaultProgram
  library := (env.findLibrary? files none).getD libraryName

/-- How the tool is started for a format and a pic file. -/
def invocation (r : Renderer) (source : String) (format : OutputFormat) : Invocation where
  program := r.program
  args := r.args ++ ["-T" ++ format.extension, source]

/-- Starts the tool; gives the image that it prints. -/
def run (r : Renderer) (tool : Tool) (source : String) (format : OutputFormat) :
    Rendering ByteArray := do
  match ← tool (r.invocation source format) with
  | .notStarted e => throw (.spawn r.program e)
  | .ended status stdout stderr =>
    if !status.success then
      throw (.toolFailed r.program status (Text.trim (Text.decodeLossy stderr)))
    if stdout.isEmpty then throw (.emptyOutput r.program)
    return stdout

/-- The path of a scratch file. -/
def scratchPath (n : Nat) : String :=
  "/tmp/sequenceplot-" ++ toString n ++ ".pic"

/-- The path of a scratch file that is not there. Of one path more than there are
    entries in the tree, one is free. -/
def freeScratchPath (files : FileTree) : String :=
  let numbers := List.range (files.entries.length + 1)
  scratchPath ((numbers.find? fun n => !files.leads (scratchPath n)).getD 0)

/-- Has a scratch file with some contents while something is done with it. -/
def withScratchFile {α : Type} (contents : ByteArray) (use : String → Rendering α) :
    Rendering α := do
  let path := freeScratchPath (← get)
  let l ← (Filing.locate path).adapt .io
  (Filing.write path contents).adapt .io
  let result ← tryCatch (Except.ok <$> use path) fun e => return .error e
  modify fun files => files.erase l
  MonadExcept.ofExcept result

/-- Renders a document to the path `target` with the extension of the format;
    answers the path of the image. -/
def render (r : Renderer) (tool : Tool) (doc : Document) (target : String)
    (format : OutputFormat) : Rendering String := do
  let image := Path.withExtension target format.extension
  let pic := (doc.toPic r.library).toUTF8
  let bytes ←
    if r.keepSource then do
      let source := Path.withExtension target "pic"
      (Filing.write source pic).adapt .io
      r.run tool source format
    else withScratchFile pic fun source => r.run tool source format
  (Filing.write image bytes).adapt .io
  return image

end Renderer

end Lifelines
