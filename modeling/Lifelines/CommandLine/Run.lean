import Lifelines.CommandLine.Options
import Lifelines.Demo
import Lifelines.Overrides
import Lifelines.Render
import Lifelines.Settings.File

/-!
# Running a command

A run clears and saves settings if asked to, then lists the examples or draws
one of them: as a pic program on the standard output or as an image in a file.
The settings of the command line are laid over those of the working directory,
and these over those of the user; a run that clears the settings uses those of
the command line alone.

* `RunError`: why a run fails;
* `CommandLine.storeSettings`, `CommandLine.effectiveSettings`: settings cleared and
  saved, and those of the run;
* `CommandLine.execute`: a run with given options;
* `CommandLine.run`: a run with given arguments.
-/

namespace Lifelines

/-- Why a run fails. -/
inductive RunError where
  | config (error : ConfigError)
  | noDemo
  | unknownDemo (name : String)
  | demoNotDrawn (name : String) (error : DrawError)
  | notFinished (error : DrawError)
  | noLibrary
  | directoryNotMade (path : String) (error : FileError)
  | notRendered (error : RenderError)
  deriving Repr

/-- The message for a run that fails. -/
def RunError.message : RunError → String
  | config error => error.message
  | noDemo => "No demo given; use --list to see the available demos"
  | unknownDemo name => "Unknown demo " ++ name ++ "; use --list to see the available demos"
  | demoNotDrawn name _ => "Failed to build demo " ++ name
  | notFinished error => error.message
  | noLibrary =>
    "Unable to locate " ++ libraryName ++ "; pass --library or set " ++ libraryVariable
  | directoryNotMade path _ => "Failed to create " ++ path
  | notRendered _ => "Rendering failed"

namespace CommandLine

/-- Parts of a run that print nothing: they change files and may fail on the way. -/
abbrev Running := ExceptT RunError (StateM FileTree)

/-- Parts of a run that print as well. What has been printed when they fail stays
    printed. -/
abbrev Printing := ExceptT RunError (StateT String (StateM FileTree))

/-- Prints a text. -/
def print (text : String) : Printing Unit :=
  modify fun printed => printed ++ text

/-- Does what prints nothing. -/
def quietly {α : Type} (x : Running α) : Printing α :=
  ExceptT.mk (StateT.lift x.run)

/-- Goes on with what may have failed. -/
def orFail {ε α : Type} (error : ε → RunError) : Except ε α → Running α
  | .ok a => return a
  | .error e => throw (error e)

/-- The settings of a run. -/
def effectiveSettings (env : Environment) (o : Options) : Running Settings := do
  if o.has .clear then return Settings.union {} o.settings
  let files ← get
  let user ← orFail .config (Settings.load files env.globalSettingsPath)
  let here ← orFail .config (Settings.load files localSettingsPath)
  return (user.union here).union o.settings

/-- The document of an example, with the parameters of a file. -/
def drawDemo (name : String) (params : Option String) : Running Document := do
  let some demo := Demo.ofName? name | throw (.unknownDemo name)
  let diagram ← orFail (.demoNotDrawn name) demo.build
  match params with
  | none => orFail .notFinished diagram.finish
  | some path =>
    let overrides ← orFail .config (Overrides.load (← get) path)
    let (outcome, set) := overrides.applyTo diagram.params
    orFail .config outcome
    orFail .notFinished { diagram with params := set }.finish

/-- Renders the document of an example; gives the path of the image. -/
def renderDemo (tool : Tool) (o : Options) (settings : Settings) (name : String)
    (doc : Document) (library : String) : Running String := do
  let renderer : Renderer :=
    { program := settings.program.getD Renderer.defaultProgram, library := library }
  (Filing.makeDirectories o.outDir).adapt (.directoryNotMade o.outDir)
  let target := Path.join o.outDir name
  (renderer.render tool doc target (settings.format.getD .svg)).adapt .notRendered

/-- The names of the examples, each on a line. -/
def listing : String :=
  String.join (Demo.all.map fun demo => demo.name ++ "\n")

/-- Clears and saves settings if asked to. -/
def storeSettings (env : Environment) (o : Options) : Running Unit := do
  if o.has .clear then (Settings.clear env.globalSettingsPath).adapt .config
  if o.has .save then (Settings.save env.globalSettingsPath o.settings).adapt .config

/-- What is done before the examples are turned to; gives the settings of the run. -/
def prepare (env : Environment) (o : Options) : Running Settings := do
  storeSettings env o
  effectiveSettings env o

/-- Prints an example as a pic program, or renders it and prints the path of the
    image. -/
def showDemo (tool : Tool) (env : Environment) (o : Options) (settings : Settings)
    (name : String) : Printing Unit := do
  let doc ← quietly (drawDemo name settings.params)
  let files ← quietly get
  let library? := env.findLibrary? files settings.library
  if o.has .emit then print (doc.toPic (library?.getD libraryName))
  else
    match library? with
    | none => throw .noLibrary
    | some library =>
      let image ← quietly (renderDemo tool o settings name doc library)
      print (image ++ "\n")

/-- Does with some settings what the options say. -/
def proceed (tool : Tool) (env : Environment) (o : Options) (settings : Settings) :
    Printing Unit :=
  if o.has .list then print listing
  else
    match o.demo with
    | some name => showDemo tool env o settings name
    | none => if o.has .save || o.has .clear then return else throw .noDemo

/-- A run with given options. -/
def execute (tool : Tool) (env : Environment) (o : Options) : Printing Unit := do
  let settings ← quietly (prepare env o)
  proceed tool env o settings

/-- What can be seen of a run, the files apart. -/
structure Outcome where
  /-- The exit code: one for a run that fails, two for a command line that is not
      understood. -/
  code : Nat
  /-- What is printed. -/
  stdout : String
  /-- The message of a run that fails. -/
  error : Option String
  deriving DecidableEq, Repr

/-- The name and version of the program. -/
def versionText : String :=
  "sequenceplot 0.5.0\n"

/-- How the program is used. -/
def helpText : String :=
  "Render UMLGraph sequence diagrams with pic2plot\n\n" ++
  "Usage: sequenceplot [OPTIONS] [DEMO]\n\n" ++
  "Arguments:\n" ++
  "  [DEMO]  Demo diagram to render\n\n" ++
  "Options:\n" ++
  "      --list             List available demo diagrams\n" ++
  "      --emit             Print the pic source instead of rendering\n" ++
  "  -f, --format <FORMAT>  Output format [possible values: svg, png, gif, ps]\n" ++
  "  -o, --out-dir <DIR>    Directory for rendered files [default: .]\n" ++
  "      --pic2plot <PATH>  pic2plot executable\n" ++
  "      --library <PATH>   Location of sequence.pic\n" ++
  "      --params <PATH>    JSON file of layout parameter overrides\n" ++
  "      --save             Save current command-line flags as defaults\n" ++
  "      --clear            Clear saved defaults\n" ++
  "  -h, --help             Print help\n" ++
  "  -V, --version          Print version\n"

/-- What is seen of a run that has been carried out. -/
def report (x : Printing Unit) : StateM FileTree Outcome := do
  match ← StateT.run (ExceptT.run x) "" with
  | (.ok (), printed) => return ⟨0, printed, none⟩
  | (.error e, printed) => return ⟨1, printed, some e.message⟩

/-- A run of the program. -/
def run (tool : Tool) (env : Environment) (args : List String) : StateM FileTree Outcome :=
  match parse args with
  | .error _ => return ⟨2, "", none⟩
  | .ok .help => return ⟨0, helpText, none⟩
  | .ok .version => return ⟨0, versionText, none⟩
  | .ok (.run o) => report (execute tool env o)

end CommandLine

end Lifelines
