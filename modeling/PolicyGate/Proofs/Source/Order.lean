import PolicyGate.Proofs.Attempt
import PolicyGate.Proofs.Source.Listing

/-!
# The order of loading

Loading goes through the files that the paths stand for, one path after the other, and lays each document over those
before it. One file adds a document, one path adds its files or a notice, and such additions can be put together
(`LoadedPolicy.adds_append`). What is loaded is therefore determined by the order of the paths and of the names in the
folders, and by nothing else (`LoadedPolicy.loads_in_order`).
-/

namespace PolicyGate

open Attempt

/-- The document that a path leads to. -/
def FileTree.Reads (tree : FileTree) (file : Path) (document : Value) : Prop :=
  ∃ content, tree.item? file = some (.file content) ∧ LoadedPolicy.document file content = .ok document

/-- What is said about a path: that there is nothing, if so. -/
def FileTree.notices (tree : FileTree) (path : Path) : List String :=
  if tree.item? path = none then ["Policy source not found: " ++ path.text] else []

namespace LoadedPolicy

/-- The document of a file; an empty one if there is no file. -/
def documentAt (tree : FileTree) (file : Path) : Except LoadError Value := document file ((tree.bytes? file).getD [])

/-- What is loaded afterwards is what was loaded before with the documents of some files laid over it, one after the
other, and with some more notices. -/
structure Adds (tree : FileTree) (loaded : LoadedPolicy) (files : List Path) (notices : List String)
    (after : LoadedPolicy) : Prop where
  raw : ∃ documents, files.mapM (documentAt tree) = .ok documents ∧
    documents.foldlM Document.merge loaded.raw = .ok after.raw
  sources : after.sources = loaded.sources ++ files
  warnings : after.warnings = loaded.warnings ++ notices

variable {tree tree' : FileTree} {loaded after : LoadedPolicy} {files files' paths before later : List Path}
  {notices notices' : List String} {file path : Path} {document : Value}

/-- Without files only notices are added. -/
theorem adds_notices :
    Adds tree loaded [] notices after ↔ { loaded with warnings := loaded.warnings ++ notices } = after := by
  constructor
  · rintro ⟨⟨documents, hdocuments, hraw⟩, hsources, hwarnings⟩
    obtain rfl : documents = [] := (Except.ok.inj hdocuments).symm
    have hraw : loaded.raw = after.raw := Except.ok.inj hraw
    rw [List.append_nil] at hsources
    rw [hraw, ← hsources, ← hwarnings]
  · rintro rfl
    exact ⟨⟨[], rfl, rfl⟩, (List.append_nil _).symm, rfl⟩

theorem adds_nil : Adds tree loaded [] [] after ↔ loaded = after := by
  rw [adds_notices, List.append_nil]

/-- Additions one after the other are one addition. -/
theorem adds_append : Adds tree loaded (files ++ files') (notices ++ notices') after ↔
    ∃ between, Adds tree loaded files notices between ∧ Adds tree between files' notices' after := by
  constructor
  · rintro ⟨⟨documents, hdocuments, hraw⟩, hsources, hwarnings⟩
    obtain ⟨first, second, hfirst, hsecond, rfl⟩ := mapM_append_eq_ok.1 hdocuments
    rw [List.foldlM_append, bind_eq_ok] at hraw
    obtain ⟨raw, hraw, hafter⟩ := hraw
    exact ⟨⟨raw, loaded.sources ++ files, loaded.warnings ++ notices⟩, ⟨⟨first, hfirst, hraw⟩, rfl, rfl⟩,
      ⟨second, hsecond, hafter⟩, by rw [hsources, List.append_assoc], by rw [hwarnings, List.append_assoc]⟩
  · rintro ⟨between, ⟨⟨first, hfirst, hraw⟩, hsources, hwarnings⟩, ⟨second, hsecond, hafter⟩, hsources', hwarnings'⟩
    refine ⟨⟨first ++ second, mapM_append_eq_ok.2 ⟨_, _, hfirst, hsecond, rfl⟩, ?_⟩, ?_, ?_⟩
    · rw [List.foldlM_append, bind_eq_ok]
      exact ⟨_, hraw, hafter⟩
    · rw [hsources', hsources, List.append_assoc]
    · rw [hwarnings', hwarnings, List.append_assoc]

/-- A file adds its document. -/
theorem addFile_eq_ok : addFile tree loaded file = .ok after ↔ Adds tree loaded [file] [] after := by
  constructor
  · intro h
    obtain ⟨document, hdocument, h⟩ := bind_eq_ok.1 h
    obtain ⟨raw, hraw, h⟩ := bind_eq_ok.1 h
    obtain rfl := Except.ok.inj h
    refine ⟨⟨[document], mapM_eq_ok.2 (.cons hdocument .nil), ?_⟩, rfl, (List.append_nil _).symm⟩
    rw [List.foldlM_cons, mapError_eq_ok.1 hraw]
    rfl
  · rintro ⟨⟨documents, hdocuments, hraw⟩, hsources, hwarnings⟩
    obtain _ | ⟨hdocument, _ | _⟩ := mapM_eq_ok.1 hdocuments
    rw [List.foldlM_cons, bind_eq_ok] at hraw
    obtain ⟨raw, hraw, hafter⟩ := hraw
    have hafter : raw = after.raw := Except.ok.inj hafter
    refine bind_eq_ok.2 ⟨_, hdocument, bind_eq_ok.2 ⟨_, mapError_eq_ok.2 hraw, ?_⟩⟩
    rw [List.append_nil] at hwarnings
    rw [pure_eq_ok, hafter, ← hsources, ← hwarnings]

theorem addFiles_eq_ok : files.foldlM (addFile tree) loaded = .ok after ↔ Adds tree loaded files [] after := by
  induction files generalizing loaded with
  | nil =>
    rw [adds_nil, List.foldlM_nil, pure_eq_ok]
  | cons file files ih =>
    rw [List.foldlM_cons, bind_eq_ok]
    simp only [addFile_eq_ok, ih]
    exact adds_append.symm

theorem addPath_eq_ok : addPath tree loaded path = .ok after ↔
    Adds tree loaded ((tree.sources? path).getD []) (tree.notices path) after := by
  unfold addPath FileTree.notices
  cases hsources : tree.sources? path with
  | none =>
    rw [if_pos (FileTree.sources?_eq_none.1 hsources), Option.getD_none, adds_notices, Except.ok.injEq]
  | some files =>
    have hitem : tree.item? path ≠ none := by
      rw [Ne, ← FileTree.sources?_eq_none, hsources]
      exact Option.some_ne_none files
    rw [if_neg hitem]
    exact addFiles_eq_ok

/-- Paths add all their files and notices, in the order of the paths. -/
theorem addPaths_eq_ok : paths.foldlM (addPath tree) loaded = .ok after ↔
    Adds tree loaded (paths.flatMap fun path => (tree.sources? path).getD []) (paths.flatMap tree.notices) after := by
  induction paths generalizing loaded with
  | nil =>
    rw [List.flatMap_nil, List.flatMap_nil, adds_nil, List.foldlM_nil, pure_eq_ok]
  | cons path paths ih =>
    rw [List.foldlM_cons, bind_eq_ok, List.flatMap_cons, List.flatMap_cons, adds_append]
    simp only [addPath_eq_ok, ih]

/-! ## What is loaded -/

theorem reads_iff (h : tree.StandsFor path files) (hfile : file ∈ files) :
    tree.Reads file document ↔ documentAt tree file = .ok document := by
  obtain ⟨content, hitem⟩ := h.exists_content hfile
  rw [FileTree.Reads, documentAt, FileTree.bytes?_of_file hitem, hitem]
  simp

theorem forall₂_reads_iff {parts : List (List Path)} {documents : List Value}
    (hparts : List.Forall₂ tree.StandsFor paths parts) :
    List.Forall₂ tree.Reads parts.flatten documents ↔ parts.flatten.mapM (documentAt tree) = .ok documents := by
  rw [mapM_eq_ok]
  refine forall₂_congr fun file hfile document => ?_
  obtain ⟨files, hfiles, hfile⟩ := List.mem_flatten.1 hfile
  obtain ⟨path, -, hstands⟩ := partner_of_mem_right hparts hfiles
  exact reads_iff hstands hfile

theorem flatMap_notices : paths.flatMap tree.notices =
    (paths.filter fun path => tree.item? path = none).map fun path => "Policy source not found: " ++ path.text := by
  induction paths with
  | nil => rfl
  | cons path paths ih =>
    rw [List.flatMap_cons, ih, FileTree.notices, List.filter_cons]
    by_cases hitem : tree.item? path = none
    · simp [hitem]
    · simp [hitem]

theorem ofPaths_eq_ok (hsound : tree.IsSound) : ofPaths tree paths = .ok loaded ↔
    ∃ parts documents, List.Forall₂ tree.StandsFor paths parts ∧ loaded.sources = parts.flatten ∧
      List.Forall₂ tree.Reads loaded.sources documents ∧ Document.mergeAll documents = .ok loaded.raw ∧
      loaded.warnings = (paths.filter fun path => tree.item? path = none).map fun path =>
        "Policy source not found: " ++ path.text := by
  rw [ofPaths, addPaths_eq_ok, flatMap_notices, List.flatMap_def]
  constructor
  · rintro ⟨⟨documents, hdocuments, hraw⟩, hsources, hwarnings⟩
    have hparts := hsound.forall₂_standsFor_iff.2 (Eq.refl (paths.map fun path => (tree.sources? path).getD []))
    refine ⟨_, documents, hparts, hsources, ?_, hraw, hwarnings⟩
    rw [hsources]
    exact (forall₂_reads_iff hparts).2 hdocuments
  · rintro ⟨parts, documents, hparts, hsources, hdocuments, hraw, hwarnings⟩
    rw [hsources, forall₂_reads_iff hparts] at hdocuments
    obtain rfl := hsound.forall₂_standsFor_iff.1 hparts
    exact ⟨⟨documents, hdocuments, hraw⟩, hsources, hwarnings⟩

/-! ## What makes no difference -/

theorem ofPaths_of_perm (hsound : tree.IsSound) (hhome : tree'.home = tree.home)
    (hperm : tree'.items.Perm tree.items) : ofPaths tree' paths = ofPaths tree paths := by
  have hadd : addPath tree' = addPath tree := by
    funext loaded path
    unfold addPath addFile
    rw [hsound.sources?_of_perm hhome hperm,
      FileTree.bytes?_congr hhome (FileTree.at?_of_perm hsound hhome hperm)]
  rw [ofPaths, ofPaths, hadd]

/-- A path to something may as well be replaced by the files that it stands for. -/
theorem addPath_eq_addPaths (hsound : tree.IsSound) (hfiles : tree.StandsFor path files)
    (hitem : tree.item? path ≠ none) :
    addPath tree loaded path = files.foldlM (addPath tree) loaded := by
  have hsources : tree.sources? path = some files := by
    obtain ⟨files', hfiles'⟩ := Option.ne_none_iff_exists'.1 (mt FileTree.sources?_eq_none.1 hitem)
    rw [hfiles', ← hsound.standsFor_iff.1 hfiles, hfiles', Option.getD_some]
  rw [addPath, hsources]
  -- each of the files stands for itself
  refine foldlM_congr fun file hfile loaded => ?_
  obtain ⟨content, hcontent⟩ := hfiles.exists_content hfile
  rw [addPath, FileTree.sources?_of_file hcontent]
  exact (bind_pure _).symm

theorem ofPaths_replaced (hsound : tree.IsSound) (hfiles : tree.StandsFor path files)
    (hitem : tree.item? path ≠ none) :
    ofPaths tree (before ++ path :: later) = ofPaths tree (before ++ files ++ later) := by
  rw [ofPaths, ofPaths, List.append_assoc, List.foldlM_append, List.foldlM_append]
  refine bind_congr fun loaded => ?_
  rw [List.foldlM_cons, List.foldlM_append, addPath_eq_addPaths hsound hfiles hitem]

/-- Loading lays the documents of the files that the paths stand for over each other, in the order of the paths and,
within a folder, of the names:

* It succeeds exactly if all these files are documents that can be merged in this order. The sources are these files,
  and there is one warning for each path to nothing, in the order of the paths.
* The order in which the items of the tree are listed makes no difference, not even to how loading fails.
* A path to a folder may as well be replaced by the files that it stands for. -/
theorem loads_in_order (tree : FileTree) (hsound : tree.IsSound) (paths : List Path) :
    (∀ loaded, ofPaths tree paths = .ok loaded ↔
      ∃ parts documents, List.Forall₂ tree.StandsFor paths parts ∧ loaded.sources = parts.flatten ∧
        List.Forall₂ tree.Reads loaded.sources documents ∧ Document.mergeAll documents = .ok loaded.raw ∧
        loaded.warnings = (paths.filter fun path => tree.item? path = none).map fun path =>
          "Policy source not found: " ++ path.text) ∧
    (∀ tree' : FileTree, tree'.home = tree.home → tree'.items.Perm tree.items →
      ofPaths tree' paths = ofPaths tree paths) ∧
    ∀ before path later files, paths = before ++ path :: later → tree.item? path ≠ none →
      tree.StandsFor path files → ofPaths tree paths = ofPaths tree (before ++ files ++ later) := by
  refine ⟨fun loaded => ofPaths_eq_ok hsound, fun tree' hhome hperm => ofPaths_of_perm hsound hhome hperm, ?_⟩
  rintro before path later files rfl hitem hfiles
  exact ofPaths_replaced hsound hfiles hitem

/-! ### Nothing, a folder, and a file twice -/

/-- A folder with two documents and a note, and another document besides it. -/
def mixedFolder : FileTree where
  items := [(["rules", "20-team.YAML"], .file "strict: true".toUTF8.toList), (["rules"], .folder),
    (["rules", "notes.txt"], .file [0xff]), (["rules", "10-core.json"], .file "\x7b\x7d".toUTF8.toList),
    (["site.yml"], .file "strict: no".toUTF8.toList)]
  home := []

def missingPath : Path := { steps := ["missing"] }

def rulesPath : Path := { steps := ["rules"] }

def sitePath : Path := { steps := ["site.yml"] }

/-- The documents of the folder come in the order of their names, and the note is left out. -/
theorem rulesPath_standsFor (hsound : mixedFolder.IsSound) : mixedFolder.StandsFor rulesPath
    [rulesPath.child "10-core.json", rulesPath.child "20-team.YAML"] := by
  have hplace : mixedFolder.place? rulesPath = some ["rules"] := by decide
  have hnames : mixedFolder.documentNames ["rules"] = ["10-core.json", "20-team.YAML"] :=
    hsound.documentNames_eq (by decide) (by decide)
  rw [hsound.standsFor_iff, FileTree.sources?_of_folder hplace (by decide), hnames]
  rfl

theorem mixedFolder_loads : mixedFolder.IsSound ∧ ∃ loaded documents,
    ofPaths mixedFolder [missingPath, rulesPath, sitePath, sitePath] = .ok loaded ∧
      loaded.sources = [rulesPath.child "10-core.json", rulesPath.child "20-team.YAML", sitePath, sitePath] ∧
      loaded.warnings = ["Policy source not found: missing"] ∧
      List.Forall₂ mixedFolder.Reads loaded.sources documents ∧ Document.mergeAll documents = .ok loaded.raw := by
  have hsound : mixedFolder.IsSound := ⟨by decide, by decide⟩
  -- putting names in order does not compute in the kernel, so the folder is replaced by its files first
  obtain ⟨hloads, -, hreplace⟩ := loads_in_order mixedFolder hsound [missingPath, rulesPath, sitePath, sitePath]
  have hexplicit := hreplace [missingPath] rulesPath [sitePath, sitePath] _ rfl (by decide) (rulesPath_standsFor hsound)
  have hsources : (ofPaths mixedFolder [missingPath, rulesPath.child "10-core.json", rulesPath.child "20-team.YAML",
      sitePath, sitePath]).map sources =
        .ok [rulesPath.child "10-core.json", rulesPath.child "20-team.YAML", sitePath, sitePath] := by decide +kernel
  obtain ⟨loaded, hloaded, hsources⟩ := map_eq_ok.1 hsources
  have hloaded := hexplicit.trans hloaded
  obtain ⟨-, documents, -, -, hdocuments, hraw, hwarnings⟩ := (hloads loaded).1 hloaded
  exact ⟨hsound, loaded, documents, hloaded, hsources, hwarnings.trans (by decide), hdocuments, hraw⟩

end LoadedPolicy
end PolicyGate
