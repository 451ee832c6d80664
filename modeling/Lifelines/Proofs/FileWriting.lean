import Lifelines.Proofs.Locations
import Lifelines.Proofs.Requests
import Lifelines.Settings.File

/-!
# Files read after they are written

A file that has been written is read back where it was written to. Nothing that
leads there can have been changed by it: a path only leads through directories, and
what a file is written over is none.

* `FileTree.locate_put`: a path leads to a file after it was written;
* `FileTree.Writable`: where a file can be written;
* `Settings.load_of_node?`: settings are read from the text that is there;
* `Settings.load_of_run_save`: settings are read from what was written.
-/

namespace Lifelines

/-! ### Files in a changed tree -/

namespace FileTree

variable {t t' : FileTree} {l : Location} {node : Node} {path : String}

theorem locate_put (hl : t.node? l ≠ some .directory) (h : t.locate path = .ok l) :
    (t.put l node).locate path = .ok l :=
  locate_mono (t := t) rfl (fun _ => node?_put_of_directory hl) h

/-- A text is read from where it is. -/
theorem readText_of_node? {text : String} {executable : Bool} (hl : t.locate path = .ok l)
    (hnode : t.node? l = some (.file text.toUTF8 executable)) : t.readText path = .ok text := by
  have hutf8 : String.fromUTF8? text.toUTF8 = some text := by
    rw [String.toUTF8_eq_toByteArray, String.fromUTF8?, dif_pos text.isValidUTF8]
    rfl
  have hread : t.read path = .ok text.toUTF8 := by
    rw [read, lookup_of_node? hl hnode]
    rfl
  simp only [readText, hread, bind, Except.bind, hutf8]

/-- A tree whose only file is in the root and holds a text. -/
def single (text : String) : FileTree where
  entries := [(["f"], .file text.toUTF8 false)]

theorem readText_single (text : String) : (single text).readText "f" = .ok text :=
  readText_of_node? (l := ["f"]) rfl rfl

/-- A path from which a text is read leads somewhere. -/
theorem leads_of_readText {text : String} (h : t.readText path = .ok text) :
    t.leads path = true := by
  rw [leads]
  cases hlookup : t.lookup path with
  | ok node => rfl
  | error e => simp [readText, read, hlookup, bind, Except.bind] at h

/-! ### Files that can be written -/

/-- The path leads to a place for a file: all directories on the way are there, and no directory
    is in that place. -/
def Writable (t : FileTree) (path : String) : Prop :=
  ∃ l, t.locate path = .ok l ∧ t.node? l ≠ some .directory

theorem Writable.locate_eq (h : t.Writable path) : t.locate path = .ok (t.target path) := by
  obtain ⟨l, hl, -⟩ := h
  rw [hl, eq_target_of_locate hl]

/-- No directory is in the place for the file. -/
theorem Writable.node?_target_ne (h : t.Writable path) :
    t.node? (t.target path) ≠ some .directory := by
  obtain ⟨l, hl, hnode⟩ := h
  rwa [← eq_target_of_locate hl]

/-- Where a file can be written depends on the directories only. -/
theorem Writable.congr (h : t.Writable path) (hhere : t'.here = t.here)
    (hdir : ∀ m, t'.node? m = some .directory ↔ t.node? m = some .directory) :
    t'.Writable path := by
  obtain ⟨l, hl, hnode⟩ := h
  exact ⟨l, locate_mono hhere (fun m => (hdir m).2) hl, mt (hdir l).1 hnode⟩

/-- Another file, written elsewhere or in the same place, is not in the way. -/
theorem Writable.put_file (h : t.Writable path) (hl : t.node? l ≠ some .directory)
    (contents : ByteArray) (executable : Bool) :
    (t.put l (.file contents executable)).Writable path := by
  refine h.congr rfl fun m => ?_
  by_cases hm : m = l
  · subst hm
    simp [node?_put_self (ne_nil_of_node?_ne hl), hl]
  · rw [node?_put_of_ne hm]

/-- A file that is taken away has not been on the way. -/
theorem Writable.erase (h : t.Writable path) (hl : t.node? l ≠ some .directory) :
    (t.erase l).Writable path := by
  refine h.congr rfl fun m => ?_
  by_cases hm : m = l
  · subst hm
    simp [node?_erase_self (ne_nil_of_node?_ne hl), hl]
  · rw [node?_erase_of_ne hm]

/-- The file is written to the target of the path and can be run if the one before could. -/
theorem Writable.run_write (h : t.Writable path) (contents : ByteArray) :
    (Filing.write path contents).run.run t =
      (.ok (), t.put (t.target path) (.file contents (t.isExecutable (t.target path)))) := by
  obtain ⟨l, hl, hnode⟩ := h
  rw [← eq_target_of_locate hl]
  exact Filing.run_write_of_locate hl hnode contents

end FileTree

/-! ### Settings files -/

theorem Settings.load_of_readText {t : FileTree} {path text : String}
    (h : t.readText path = .ok text) : load t path = .ok (ofText text) := by
  rw [load, if_pos (FileTree.leads_of_readText h), h]

/-- Settings are read from the text that is there. -/
theorem Settings.load_of_node? {t : FileTree} {l : Location} {path text : String}
    {executable : Bool} (hl : t.locate path = .ok l)
    (hnode : t.node? l = some (.file text.toUTF8 executable)) :
    load t path = .ok (ofText text) :=
  load_of_readText (FileTree.readText_of_node? hl hnode)

/-- Settings that have been written are read from the text that was written, whatever
    the tree was before and whatever directories had to be made. -/
theorem Settings.load_of_run_save {t t' : FileTree} {path : String} {s : Settings}
    (h : (save path s).run.run t = (.ok (), t')) : load t' path = .ok (ofText s.toText) := by
  obtain ⟨t₁, hwrite⟩ : ∃ t₁, (Filing.write path s.toText.toUTF8).run.run t₁ = (.ok (), t') := by
    rw [save] at h
    split at h
    · obtain ⟨_, t₁, _, h⟩ := exists_of_run_bind_eq_ok h
      exact ⟨t₁, run_of_run_adapt h⟩
    · exact ⟨t, run_of_run_adapt h⟩
  obtain ⟨l, executable, hlocate, hnode, rfl⟩ := Filing.exists_of_run_write hwrite
  exact load_of_node? (FileTree.locate_put hnode hlocate)
    (FileTree.node?_put_self (FileTree.ne_nil_of_node?_ne hnode))

end Lifelines
