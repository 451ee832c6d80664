import Lifelines.Proofs.FileWriting
import Lifelines.Proofs.Scratch

/-!
# Rendering and the files

What comes of rendering a document is settled by how the layout tool ends. If it ends well
and has printed something, that is what the image file holds afterwards; if not, the error
says why, and what there was in the place of the image is still there. A pic file that is
kept holds the document in either case, and no other file is touched.

The pic file is written before the tool is started, be it one that is kept or a scratch
file, and nothing but the image is written after it. So all that has to be known of the
tool is that it changes no files itself.

* `Renderer.ended`: how the tool ends on the pic file;
* `Renderer.drawn`: the files when there is an image, or none, and it is not yet written;
* `Renderer.Outcome`: what rendering answers and leaves for each way in which the tool ends;
* `Renderer.outcome_of_render`: rendering has this outcome.
-/

namespace Lifelines

/-! ### Rendering in two parts -/

/-- Where a file can be written before the tool is started, it can be written afterwards. -/
def Tool.LeavesWritable (tool : Tool) (path : String) : Prop :=
  ∀ i t, t.Writable path → ((tool i).run t).2.Writable path

namespace Renderer

variable {r : Renderer} {tool : Tool} {doc : Document} {target : String} {format : OutputFormat}
  {t : FileTree}

/-- The path of the image. -/
def image (target : String) (format : OutputFormat) : String :=
  Path.withExtension target format.extension

/-- The path of the pic file if it is kept. -/
def keptSource (target : String) : String :=
  Path.withExtension target "pic"

/-- The path of the pic file that the tool is given. -/
def source (r : Renderer) (target : String) (t : FileTree) : String :=
  if r.keepSource then keptSource target else freeScratchPath t

/-- The contents of the pic file. -/
def pic (r : Renderer) (doc : Document) : ByteArray :=
  (doc.toPic r.library).toUTF8

/-- The files when the tool is started: the pic file has been written. -/
def started (r : Renderer) (doc : Document) (target : String) (t : FileTree) : FileTree :=
  ((Filing.write (r.source target t) (r.pic doc)).run.run t).2

/-- How the tool ends when it is started on the pic file, and the files then. -/
def ended (r : Renderer) (tool : Tool) (doc : Document) (target : String) (format : OutputFormat)
    (t : FileTree) : ToolEnd × FileTree :=
  (tool (r.invocation (r.source target t) format)).run (r.started doc target t)

/-- What is made of the way in which the tool ends: an image, or the reason why there is none. -/
def verdict (r : Renderer) : ToolEnd → Except RenderError ByteArray
  | .notStarted e => .error (.spawn r.program e)
  | .ended status stdout stderr =>
    if !status.success then
      .error (.toolFailed r.program status (Text.trim (Text.decodeLossy stderr)))
    else if stdout.isEmpty then .error (.emptyOutput r.program)
    else .ok stdout

/-- An image is what the tool prints. -/
theorem run_run (source : String) (t : FileTree) :
    (r.run tool source format).run.run t =
      (r.verdict ((tool (r.invocation source format)).run t).1,
        ((tool (r.invocation source format)).run t).2) := by
  have hstart : (tool (r.invocation source format) : Rendering ToolEnd).run.run t =
      (.ok ((tool (r.invocation source format)).run t).1,
        ((tool (r.invocation source format)).run t).2) := rfl
  rw [run, run_bind, hstart]
  rcases (tool (r.invocation source format)).run t with ⟨e | ⟨status, stdout, stderr⟩, t'⟩
  · rfl
  · dsimp only [verdict]
    split
    · rfl
    · split <;> rfl

/-- The part of rendering that gets an image from the tool. -/
def draw (r : Renderer) (tool : Tool) (doc : Document) (target : String) (format : OutputFormat) :
    Rendering ByteArray :=
  if r.keepSource then do
    (Filing.write (keptSource target) (r.pic doc)).adapt .io
    r.run tool (keptSource target) format
  else withScratchFile (r.pic doc) fun source => r.run tool source format

/-- The image is written once there is one. -/
theorem render_eq : r.render tool doc target format = (do
    let bytes ← r.draw tool doc target format
    (Filing.write (image target format) bytes).adapt .io
    return image target format) := by
  unfold render draw
  dsimp only
  split
  · rw [bind_assoc]
    rfl
  · rfl

/-- The files when the tool has ended, without the scratch file if there was one. -/
def drawn (r : Renderer) (tool : Tool) (doc : Document) (target : String) (format : OutputFormat)
    (t : FileTree) : FileTree :=
  if r.keepSource then (r.ended tool doc target format t).2
  else (r.ended tool doc target format t).2.erase (t.target (r.source target t))

section

variable (hsource : t.Writable (r.source target t))

include hsource

/-- The tool starts with the pic file in its place, which can be run if the one before could.
    -/
theorem started_eq : r.started doc target t = t.put (t.target (r.source target t))
    (.file (r.pic doc) (t.isExecutable (t.target (r.source target t)))) :=
  congrArg Prod.snd (hsource.run_write (r.pic doc))

/-- A scratch file is put where nothing is. -/
theorem node?_source_of_not_kept (hkeep : r.keepSource = false) :
    t.node? (t.target (r.source target t)) = none := by
  have hpath : r.source target t = freeScratchPath t := if_neg (by simp [hkeep])
  obtain ⟨l, hl, -⟩ := hsource
  rw [← FileTree.eq_target_of_locate hl]
  exact node?_of_locate_freeScratchPath (hpath ▸ hl)

/-- Whether there is an image is told by how the tool ends. -/
theorem run_draw : (r.draw tool doc target format).run.run t =
    (r.verdict (r.ended tool doc target format t).1, r.drawn tool doc target format t) := by
  have hwrite := hsource.run_write (r.pic doc)
  rw [← started_eq hsource] at hwrite
  rw [draw, drawn]
  split
  · next hkeep =>
    have hpath : r.source target t = keptSource target := if_pos hkeep
    rw [ended, ← hpath, run_bind, run_adapt_of_run hwrite]
    dsimp only
    rw [run_run]
  · next hkeep =>
    have hpath : r.source target t = freeScratchPath t := if_neg hkeep
    -- nothing is at the free path, so what is written there is not executable
    have hnew : t.isExecutable (t.target (r.source target t)) = false := by
      rw [FileTree.isExecutable, node?_source_of_not_kept hsource (by simpa using hkeep)]
    rw [run_withScratchFile, ended, started_eq hsource, hnew, ← hpath, hsource.locate_eq]
    dsimp only
    rw [run_run]

/-- The tool leaves the pic file as it was written. -/
theorem file?_source_ended (htool : tool.KeepsFiles) :
    (r.ended tool doc target format t).2.file? (t.target (r.source target t)) =
      some (r.pic doc, t.isExecutable (t.target (r.source target t))) := by
  have hne := FileTree.ne_nil_of_node?_ne hsource.node?_target_ne
  rw [ended, (htool _ _).file _ (Set.notMem_empty _), started_eq hsource,
    FileTree.file?_put_self hne]

end

/-- Where the pic file is, if it is kept. -/
def kept (r : Renderer) (target : String) (t : FileTree) : Set Location :=
  {l | r.keepSource = true ∧ l = t.target (keptSource target)}

section

variable (htool : tool.KeepsFiles) (hsource : t.Writable (r.source target t))

include htool hsource

/-- Before the image is written, nothing has changed but the pic file that is kept. -/
theorem retains_drawn :
    FileTree.Retains (r.kept target t) t (r.drawn tool doc target format t) := by
  have hended : FileTree.Retains ∅ (r.started doc target t) (r.ended tool doc target format t).2 :=
    htool _ _
  rw [started_eq hsource] at hended
  rw [drawn]
  split
  · next hkeep =>
    have hpath : r.source target t = keptSource target := if_pos hkeep
    have hspared : {t.target (r.source target t)} ⊆ r.kept target t :=
      Set.singleton_subset_iff.2 ⟨hkeep, by rw [hpath]⟩
    exact ((FileTree.retains_put _ _ _).mono hspared).trans (hended.mono (Set.empty_subset _))
  · next hkeep =>
    have hnode := node?_source_of_not_kept hsource (by simpa using hkeep)
    exact (FileTree.Retains.erase_of_put hnode hended).mono (Set.empty_subset _)

/-- A pic file that is kept holds the document, whether there is an image or not. -/
theorem contents?_drawn (hkeep : r.keepSource = true) :
    (r.drawn tool doc target format t).contents? (t.target (keptSource target)) =
      some (r.pic doc) := by
  have hpath : r.source target t = keptSource target := if_pos hkeep
  rw [drawn, if_pos hkeep, FileTree.contents?_eq, ← hpath, file?_source_ended hsource htool]
  rfl

/-- A scratch file leads nowhere, so that nothing is in the way of the image without it. -/
theorem writable_drawn {path : String} (hpath : t.Writable path)
    (hleaves : tool.LeavesWritable path) : (r.drawn tool doc target format t).Writable path := by
  have hstarted : (r.started doc target t).Writable path := by
    rw [started_eq hsource]
    exact hpath.put_file hsource.node?_target_ne _ _
  have hended : (r.ended tool doc target format t).2.Writable path := hleaves _ _ hstarted
  rw [drawn]
  split
  · exact hended
  · exact hended.erase (FileTree.node?_ne_directory_of_file? (file?_source_ended hsource htool))

end

/-- The image is another file than the pic file that is kept. -/
theorem target_image_not_mem_kept : t.target (image target format) ∉ r.kept target t := by
  rintro ⟨-, heq⟩
  have hext : '/' ∉ format.extension.toList ∧ 2 ≤ format.extension.length ∧
      format.extension ≠ "pic" := by
    cases format <;> decide
  exact hext.2.2 (FileTree.target_withExtension_inj hext.1 (by decide) hext.2.1 (by decide) heq)

section

variable (htool : tool.KeepsFiles) (hsource : t.Writable (r.source target t))

include hsource

/-- Without an image, only what was done for the tool is left. -/
theorem run_render_of_error {e : RenderError}
    (hv : r.verdict (r.ended tool doc target format t).1 = .error e) :
    (r.render tool doc target format).run.run t =
      (.error e, r.drawn tool doc target format t) := by
  rw [render_eq, run_bind, run_draw hsource, hv]

include htool

/-- An image is written over an old one, or where nothing is. -/
theorem exists_run_render_of_ok (hleaves : tool.LeavesWritable (image target format))
    (himage : t.Writable (image target format)) {bytes : ByteArray}
    (hv : r.verdict (r.ended tool doc target format t).1 = .ok bytes) :
    ∃ executable, (r.render tool doc target format).run.run t = (.ok (image target format),
      (r.drawn tool doc target format t).put (t.target (image target format))
        (.file bytes executable)) := by
  have hwritable : (r.drawn tool doc target format t).Writable (image target format) :=
    writable_drawn htool hsource himage hleaves
  have hhere : (r.drawn tool doc target format t).here = t.here :=
    (retains_drawn htool hsource).here
  have hwrite := hwritable.run_write bytes
  rw [FileTree.target_congr hhere] at hwrite
  rw [render_eq, run_bind, run_draw hsource, hv]
  dsimp only
  rw [run_bind, run_adapt_of_run hwrite]
  exact ⟨_, rfl⟩

end

/-! ### Outcomes -/

/-- A tool that ends badly has failed, whatever it has printed. -/
theorem verdict_of_ne {status : ExitStatus} (hstatus : status ≠ .code 0)
    (stdout stderr : ByteArray) : r.verdict (.ended status stdout stderr) =
      .error (.toolFailed r.program status (Text.trim (Text.decodeLossy stderr))) := by
  rw [verdict, if_pos (by simpa [ExitStatus.success] using hstatus)]

/-- A tool that ends well has drawn what it has printed, unless that is nothing. -/
theorem verdict_of_ne_empty {stdout : ByteArray} (hstdout : stdout ≠ .empty) (stderr : ByteArray) :
    r.verdict (.ended (.code 0) stdout stderr) = .ok stdout := by
  have hsize : stdout.isEmpty = false := by simpa [ByteArray.isEmpty] using hstdout
  rw [verdict, if_neg (by decide), if_neg (by simp [hsize])]

/-- What rendering answers, `reply`, and the files `t'` that it leaves of the files `t`, when the
    tool ends in some way. -/
structure Outcome (r : Renderer) (doc : Document) (target : String) (format : OutputFormat)
    (ending : ToolEnd) (t : FileTree) (reply : Except RenderError String) (t' : FileTree) :
    Prop where
  spawn : ∀ e, ending = .notStarted e → reply = .error (.spawn r.program e)
  /-- Whatever the tool has printed as an image. -/
  toolFailed : ∀ status stdout stderr, ending = .ended status stdout stderr → status ≠ .code 0 →
    reply = .error (.toolFailed r.program status (Text.trim (Text.decodeLossy stderr)))
  emptyOutput : ∀ stderr, ending = .ended (.code 0) .empty stderr →
    reply = .error (.emptyOutput r.program)
  drawn : ∀ stdout stderr, ending = .ended (.code 0) stdout stderr → stdout ≠ .empty →
    reply = .ok (image target format) ∧
      t'.contents? (t.target (image target format)) = some stdout
  /-- Without an image, the file that is there is left as it was. -/
  image_of_error : ∀ e, reply = .error e →
    t'.file? (t.target (image target format)) = t.file? (t.target (image target format))
  /-- The pic file is there even without an image. -/
  source : r.keepSource = true →
    t'.contents? (t.target (keptSource target)) = some (doc.toPic r.library).toUTF8
  retains : FileTree.Retains ({t.target (image target format)} ∪ r.kept target t) t t'

/-- What rendering comes to is settled by how the tool ends on the pic file, as long as the tool
    changes no file itself and the pic file and the image can be written. -/
theorem outcome_of_render (r : Renderer) (tool : Tool) (doc : Document) (target : String)
    (format : OutputFormat) (t : FileTree) (htool : tool.KeepsFiles)
    (hleaves : tool.LeavesWritable (image target format))
    (hsource : t.Writable (r.source target t)) (himage : t.Writable (image target format)) :
    let run := (r.render tool doc target format).run.run t
    r.Outcome doc target format (r.ended tool doc target format t).1 t run.1 run.2 := by
  intro run
  have herror {e : RenderError} (hv : r.verdict (r.ended tool doc target format t).1 = .error e) :
      run = (.error e, r.drawn tool doc target format t) := run_render_of_error hsource hv
  have hok {bytes : ByteArray} (hv : r.verdict (r.ended tool doc target format t).1 = .ok bytes) :=
    exists_run_render_of_ok htool hsource hleaves himage hv
  have hdrawn : FileTree.Retains (r.kept target t) t (r.drawn tool doc target format t) :=
    retains_drawn htool hsource
  -- after the tool has ended, nothing but the image is written
  have hlast : FileTree.Retains {t.target (image target format)}
      (r.drawn tool doc target format t) run.2 := by
    rcases hv : r.verdict (r.ended tool doc target format t).1 with e | bytes
    · rw [herror hv]
      exact .refl _ _
    · obtain ⟨executable, hrun⟩ := hok hv
      rw [show run = _ from hrun]
      exact FileTree.retains_put _ _ _
  constructor
  case spawn =>
    intro e hending
    rw [herror (by rw [hending]; rfl)]
  case toolFailed =>
    intro status stdout stderr hending hstatus
    rw [herror (by rw [hending]; exact verdict_of_ne hstatus stdout stderr)]
  case emptyOutput =>
    intro stderr hending
    rw [herror (by rw [hending]; rfl)]
  case drawn =>
    intro stdout stderr hending hstdout
    obtain ⟨executable, hrun⟩ := hok (by rw [hending]; exact verdict_of_ne_empty hstdout stderr)
    have hne := FileTree.ne_nil_of_node?_ne himage.node?_target_ne
    rw [show run = _ from hrun, FileTree.contents?_eq, FileTree.file?_put_self hne]
    exact ⟨rfl, rfl⟩
  case image_of_error =>
    intro e hreply
    rcases hv : r.verdict (r.ended tool doc target format t).1 with e | bytes
    · rw [herror hv]
      exact hdrawn.file _ target_image_not_mem_kept
    · obtain ⟨executable, hrun⟩ := hok hv
      rw [show run = _ from hrun] at hreply
      cases hreply
  case source =>
    intro hkeep
    have hne : t.target (keptSource target) ≠ t.target (image target format) := fun heq =>
      target_image_not_mem_kept (r := r) ⟨hkeep, heq.symm⟩
    rw [FileTree.contents?_eq, hlast.file _ hne, ← FileTree.contents?_eq]
    exact contents?_drawn htool hsource hkeep
  case retains =>
    exact (hdrawn.mono Set.subset_union_right).trans (hlast.mono Set.subset_union_left)

/-- A tool that prints a part of an image and complains. -/
def complainingTool : Tool := fun _ =>
  pure (.ended (.code 3) "<svg>".toUTF8 "pic2plot: syntax error\n".toUTF8)

/-- Files of an earlier run. -/
def earlierFiles : FileTree where
  entries := [(["d.svg"], .file "old".toUTF8 false), (["d.pic"], .file "old".toUTF8 false)]

/-- The complaint is handed on, the old image is still there, and the pic file is the new one. -/
theorem outcome_of_complaint :
    let r : Renderer := { program := "pic2plot", library := "sequence.pic", keepSource := true }
    let run := (r.render complainingTool ⟨{}, []⟩ "d" .svg).run.run earlierFiles
    complainingTool.KeepsFiles ∧ complainingTool.LeavesWritable "d.svg" ∧
      earlierFiles.Writable "d.pic" ∧ earlierFiles.Writable "d.svg" ∧
      run.1 = .error (.toolFailed "pic2plot" (.code 3) "pic2plot: syntax error") ∧
      run.2.contents? ["d.svg"] = some "old".toUTF8 ∧
      run.2.contents? ["d.pic"] = some (Document.toPic ⟨{}, []⟩ "sequence.pic").toUTF8 := by
  intro r run
  have htool : complainingTool.KeepsFiles := fun _ t => .refl _ t
  have hleaves : complainingTool.LeavesWritable "d.svg" := fun _ _ h => h
  have hsource : earlierFiles.Writable "d.pic" := ⟨["d.pic"], rfl, nofun⟩
  have himage : earlierFiles.Writable "d.svg" := ⟨["d.svg"], rfl, nofun⟩
  have houtcome := outcome_of_render r complainingTool ⟨{}, []⟩ "d" .svg earlierFiles htool hleaves
    hsource himage
  have hreply := houtcome.toolFailed _ _ _ rfl (by decide)
  have hstderr : Text.trim (Text.decodeLossy "pic2plot: syntax error\n".toUTF8) =
      "pic2plot: syntax error" := by decide +kernel
  rw [hstderr] at hreply
  refine ⟨htool, hleaves, hsource, himage, hreply, ?_, houtcome.source rfl⟩
  rw [FileTree.contents?_eq]
  exact congrArg (Option.map Prod.fst) (houtcome.image_of_error _ hreply)

end Renderer

end Lifelines
