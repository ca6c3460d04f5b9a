/-
A text that was written into a file of a directory is read from there.

* `FileAccess.Keeps`: what is written to a path is read from it afterwards;
* `Directory.walk_put`: with one more file a path leads where it led before;
* `Directory.keeps_access`: a directory keeps what is written to a path of its own that is not
  taken by a folder.
-/
import Mathlib.Tactic.Common
import SchemaDesigner.Storage.Directory

namespace SchemaDesigner.Storage

/-- Each text can be written to the path, and is read from there afterwards. -/
def FileAccess.Keeps {σ : Type} (files : FileAccess (StateM σ)) (s : σ) (path : String) : Prop :=
  ∀ text, (files.write path text s).1 = .ok ()
    ∧ (files.read path (files.write path text s).2).1 = .ok text

/-- The bytes of a text are decoded to the text itself. -/
lemma decodeText_toUTF8 (text : String) : decodeText text.toUTF8 = .ok text := by
  have hdecode : String.fromUTF8? text.toUTF8 = some text := dif_pos text.isValidUTF8
  rw [decodeText, hdecode]

/-- More files leave every folder a folder. -/
lemma leadToFolder_of_subset {files files' : List (List String × ByteArray)} {names : List String}
    (h : files.map Prod.fst ⊆ files'.map Prod.fst) (hnames : leadToFolder files names = true) :
    leadToFolder files' names = true := by
  rw [leadToFolder, Bool.or_eq_true, List.any_eq_true] at hnames ⊢
  refine hnames.imp_right fun ⟨f, hf, hprefix⟩ => ?_
  obtain ⟨g, hg, hgf⟩ := List.mem_map.mp (h (List.mem_map_of_mem hf))
  exact ⟨g, hg, by rw [hgf]; exact hprefix⟩

namespace Directory

variable {d : Directory} {path text : String} {names : List String} {bytes : ByteArray}

/-! ### One more file -/

lemma map_fst_files_put (d : Directory) (names : List String) (bytes : ByteArray) :
    d.files.map Prod.fst ⊆ (d.put names bytes).files.map Prod.fst := by
  rw [put]
  split_ifs
  · rw [List.map_map]
    have hsame : Prod.fst ∘ (fun f : List String × ByteArray => if f.1 = names then (names, bytes)
        else f) = Prod.fst := by
      funext f
      rw [Function.comp_apply]
      split_ifs with hf
      · exact hf.symm
      · rfl
    rw [hsame]
    exact List.Subset.refl _
  · rw [List.map_append]
    exact List.subset_append_left _ _

lemma isFolder_put {place : Place} (h : d.isFolder place = true) :
    (d.put names bytes).isFolder place = true := by
  cases place with
  | inside _ => exact leadToFolder_of_subset (map_fst_files_put d names bytes) h
  | outside _ => exact h

/-- A file that is replaced is found with its new contents. -/
lemma lookup_map_ite {files : List (List String × ByteArray)}
    (h : (files.lookup names).isSome = true) :
    (files.map fun f => if f.1 = names then (names, bytes) else f).lookup names = some bytes := by
  induction files with
  | nil => cases h
  | cons f files ih =>
    obtain ⟨key, content⟩ := f
    rw [List.map_cons]
    by_cases hkey : key = names
    · rw [if_pos hkey, List.lookup_cons_self]
    · have hne : (names == key) = false := beq_false_of_ne (Ne.symm hkey)
      rw [List.lookup_cons, hne] at h
      rw [if_neg hkey, List.lookup_cons, hne]
      exact ih h

/-- The file is there. -/
lemma file?_put (d : Directory) (names : List String) (bytes : ByteArray) :
    (d.put names bytes).file? names = some bytes := by
  rw [put]
  split_ifs with hfile
  · exact lookup_map_ite hfile
  · have habsent : d.files.lookup names = none := Option.not_isSome_iff_eq_none.mp hfile
    rw [file?, List.lookup_append, habsent, Option.none_or, List.lookup_cons_self]

/-- Where a path leads, it leads with one more file. -/
lemma walk_put {place place' : Place} {steps : List String}
    (h : d.walk place steps = .ok place') : (d.put names bytes).walk place steps = .ok place' := by
  induction steps generalizing place with
  | nil => exact h
  | cons step steps ih =>
    rw [walk] at h ⊢
    cases hfolder : d.isFolder place with
    | false =>
      rw [hfolder] at h
      cases h
    | true =>
      rw [hfolder] at h
      rw [isFolder_put hfolder]
      simp only [Bool.not_true, Bool.false_eq_true, if_false] at h ⊢
      split_ifs at h ⊢
      all_goals exact ih h

/-! ### Writing and reading -/

/-- The path leads to a place in the directory at which a file may be. -/
structure LeadsToFile (d : Directory) (path : String) (names : List String) : Prop where
  walk : ∃ start, startOf path = .ok start ∧ d.walk start (pathSteps path) = .ok (.inside names)
  isFile : endsAsFolder path = false
  isFree : d.isFolder (.inside names) = false

/-- Writing to such a path puts the bytes of the text at its place. -/
lemma LeadsToFile.write_eq (h : d.LeadsToFile path names) (text : String) :
    d.write path text = .ok (d.put names text.toUTF8) := by
  obtain ⟨⟨start, hstart, hwalk⟩, hfile, hfree⟩ := h
  simp only [write, bind, Except.bind, hstart, hfile, Bool.false_eq_true, if_false, hwalk, hfree,
    Bool.or_self]

/-- What was put at the place of such a path is read from there. -/
lemma LeadsToFile.read_put (h : d.LeadsToFile path names) (text : String) :
    (d.put names text.toUTF8).read path = .ok text := by
  obtain ⟨⟨start, hstart, hwalk⟩, hfile, -⟩ := h
  have hcontent : (d.put names text.toUTF8).content? (.inside names) = some text.toUTF8 :=
    file?_put d names _
  simp only [read, bind, Except.bind, hstart, hfile, Bool.false_eq_true, if_false, walk_put hwalk,
    hcontent, decodeText_toUTF8]

lemma read_access (d : Directory) (path : String) : access.read path d = (d.read path, d) := rfl

/-- What is written to a path that leads to a file is read from there. -/
theorem LeadsToFile.keeps_access (h : d.LeadsToFile path names) : access.Keeps d path := by
  intro text
  have hwrite : access.write path text d = (.ok (), d.put names text.toUTF8) := by
    simp only [access, bind, StateT.bind, get, getThe, MonadStateOf.get, StateT.get, pure,
      h.write_eq]
    rfl
  rw [hwrite]
  exact ⟨rfl, h.read_put text⟩

end Directory

end SchemaDesigner.Storage
