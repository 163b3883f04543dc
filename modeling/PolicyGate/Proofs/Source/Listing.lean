import Mathlib.Data.List.Sort
import Mathlib.Data.String.Basic
import PolicyGate.Source.Loading

/-!
# What a path stands for

A path stands for nothing, for a file, or for the documents in a folder in the order of their names
(`FileTree.StandsFor`). That is determined by what is at each place: in which order a tree lists its items makes no
difference to it (`FileTree.sources?_of_perm`).
-/

namespace PolicyGate
namespace FileTree

/-- No place has two items, and there are only folders on the way to the working folder. -/
structure IsSound (tree : FileTree) : Prop where
  nodup : (tree.items.map (·.1)).Nodup
  home : ∀ e ∈ tree.items, e.1 <+: tree.home → e.2 = .folder

/-- What a path leads to. -/
def item? (tree : FileTree) (path : Path) : Option FileItem := tree.place? path >>= tree.at?

/-- There is a file of that name in the folder at a place. -/
def HasFile (tree : FileTree) (place : List String) (name : String) : Prop :=
  ∃ content, tree.at? (place ++ [name]) = some (.file content)

/-- A name with one of the endings of documents, in whatever case, and something in front of it. -/
def NamesDocument (name : String) : Prop :=
  ∃ stem ending : String, stem ≠ "" ∧ name = stem ++ "." ++ ending ∧ Text.lower ("." ++ ending) ∈ documentSuffixes

/-- What a path stands for: nothing if there is nothing, a file for itself, and a folder for the files in it that are
named like documents, in the order of their names. -/
inductive StandsFor (tree : FileTree) (path : Path) : List Path → Prop where
  | nothing (hitem : tree.item? path = none) : StandsFor tree path []
  | file {content : List UInt8} (hitem : tree.item? path = some (.file content)) : StandsFor tree path [path]
  | folder {place names : List String} (hplace : tree.place? path = some place)
      (hfolder : tree.at? place = some .folder) (hsorted : names.Pairwise (· < ·))
      (hnames : ∀ name, name ∈ names ↔ NamesDocument name ∧ tree.HasFile place name) :
      StandsFor tree path (names.map path.child)

variable {tree tree' : FileTree} {place steps : List String} {name : String} {content : List UInt8} {path file : Path}
  {files : List Path} {item : FileItem}

/-! ## Places -/

theorem at?_eq_none : tree.at? place = none ↔ ¬ place <+: tree.home ∧ ∀ e ∈ tree.items, e.1 ≠ place := by
  unfold at?
  split <;> simp_all

/-- In a sound tree it makes no difference which item of a place is found first: there is only one. -/
theorem IsSound.find?_eq_some_iff {e : List String × FileItem} (h : tree.IsSound) :
    tree.items.find? (·.1 == place) = some e ↔ e ∈ tree.items ∧ e.1 = place := by
  constructor
  · intro hfind
    exact ⟨List.mem_of_find?_eq_some hfind, by simpa using List.find?_some hfind⟩
  · rintro ⟨hmem, rfl⟩
    cases hfind : tree.items.find? (·.1 == e.1) with
    | none => exact absurd (List.find?_eq_none.1 hfind e hmem) (by simp)
    | some e' =>
      have hkey : e'.1 = e.1 := by simpa using List.find?_some hfind
      rw [List.inj_on_of_nodup_map h.nodup (List.mem_of_find?_eq_some hfind) hmem hkey]

theorem IsSound.at?_eq_file_iff (h : tree.IsSound) :
    tree.at? place = some (.file content) ↔ (place, .file content) ∈ tree.items := by
  unfold at?
  constructor
  · intro hat
    split at hat
    · cases hat
    · obtain ⟨⟨here, item⟩, hfind, rfl⟩ := Option.map_eq_some_iff.1 hat
      obtain ⟨hmem, rfl⟩ := h.find?_eq_some_iff.1 hfind
      exact hmem
  · intro hmem
    -- a file is not on the way to the working folder, so it is looked up in the list
    rw [if_neg, h.find?_eq_some_iff.2 ⟨hmem, rfl⟩]
    · rfl
    · rw [List.isPrefixOf_iff_prefix]
      intro hprefix
      cases h.home _ hmem hprefix

theorem IsSound.perm (h : tree.IsSound) (hhome : tree'.home = tree.home) (hperm : tree'.items.Perm tree.items) :
    tree'.IsSound where
  nodup := (hperm.map _).nodup_iff.2 h.nodup
  home := by
    rw [hhome]
    exact fun e he => h.home e (hperm.mem_iff.1 he)

/-- What is at the places does not depend on the order of the items. -/
theorem at?_of_perm (h : tree.IsSound) (hhome : tree'.home = tree.home) (hperm : tree'.items.Perm tree.items) :
    tree'.at? = tree.at? := by
  have h' := h.perm hhome hperm
  funext place
  have hfind : tree'.items.find? (·.1 == place) = tree.items.find? (·.1 == place) := by
    refine Option.ext fun e => ?_
    rw [h'.find?_eq_some_iff, h.find?_eq_some_iff, hperm.mem_iff]
  rw [at?, at?, hhome, hfind]

theorem place?_congr (hhome : tree'.home = tree.home) (hat : tree'.at? = tree.at?) : tree'.place? = tree.place? := by
  have hstep : tree'.step = tree.step := by
    funext place name
    rw [step, step, hat]
  funext path
  rw [place?, place?, hhome, hstep]

theorem bytes?_congr (hhome : tree'.home = tree.home) (hat : tree'.at? = tree.at?) : tree'.bytes? = tree.bytes? := by
  funext path
  rw [bytes?, bytes?, place?_congr hhome hat, hat]

/-! ## Names -/

theorem toList_lower_dot_append (ending : String) :
    (Text.lower ("." ++ ending)).toList = '.' :: ending.toList.flatMap Text.lowerChars := by
  rw [Text.lower, String.toList_ofList, String.toList_append]
  rfl

/-- No ending of documents has a second point. -/
theorem dot_notMem_ending {ending : String} (h : Text.lower ("." ++ ending) ∈ documentSuffixes) :
    '.' ∉ ending.toList := by
  intro hdot
  -- in lower case the point is still there, behind the first one
  have hlower : '.' ∈ ending.toList.flatMap Text.lowerChars := List.mem_flatMap.2 ⟨'.', hdot, by decide⟩
  have htail : (Text.lower ("." ++ ending)).toList.tail = ending.toList.flatMap Text.lowerChars := by
    rw [toList_lower_dot_append, List.tail_cons]
  rw [← htail] at hlower
  have hnone : ∀ s ∈ documentSuffixes, '.' ∉ s.toList.tail := by decide
  exact hnone _ h hlower

/-- The ending is what comes from the last point on, if something stands before and behind the point. -/
theorem suffix_of_eq {stem ending : String} (hstem : stem ≠ "") (hending : ending ≠ "") (hdot : '.' ∉ ending.toList) :
    suffix (stem ++ "." ++ ending) = "." ++ ending := by
  -- read backwards, the ending is all in front of the first point
  have hname : (stem ++ "." ++ ending).toList = stem.toList ++ '.' :: ending.toList := by simp
  have hlast : ((stem ++ "." ++ ending).toList.reverse.takeWhile (· ≠ '.')).reverse = ending.toList := by
    have hbefore : ∀ c ∈ ending.toList.reverse, decide (c ≠ '.') = true := by
      intro c hc
      refine decide_eq_true fun heq => hdot ?_
      rw [← heq]
      exact List.mem_reverse.1 hc
    rw [hname, List.reverse_append, List.reverse_cons, List.append_assoc, List.takeWhile_append_of_pos hbefore]
    simp
  have hstem : 0 < stem.toList.length := List.length_pos_iff.2 (mt String.toList_eq_nil_iff.1 hstem)
  have hlong : ¬ (ending.toList.isEmpty ||
      decide ((stem ++ "." ++ ending).toList.length ≤ ending.toList.length + 1)) = true := by
    have hending : ending.toList.isEmpty = false := by simpa using hending
    rw [hending, hname, List.length_append, List.length_cons, Bool.false_or, decide_eq_true_eq]
    omega
  unfold suffix
  dsimp only
  rw [hlast, if_neg hlong]
  exact String.toList_inj.1 (by simp)

theorem exists_of_suffix_ne_empty (h : suffix name ≠ "") :
    ∃ stem ending : String, stem ≠ "" ∧ name = stem ++ "." ++ ending ∧ suffix name = "." ++ ending := by
  have hsplit := List.takeWhile_append_dropWhile (p := (· ≠ '.')) (l := name.toList.reverse)
  have hpoint := List.head?_dropWhile_not (· ≠ '.') name.toList.reverse
  unfold suffix at h ⊢
  dsimp only at h ⊢
  split at h
  · exact absurd rfl h
  rename_i hlong
  rw [if_neg hlong]
  generalize name.toList.reverse.takeWhile (· ≠ '.') = ending at hsplit hlong ⊢
  cases hrest : name.toList.reverse.dropWhile (· ≠ '.') with
  | nil =>
    -- without a point the whole name would be the ending
    rw [hrest, List.append_nil] at hsplit
    simp [hsplit] at hlong
  | cons c stem =>
    rw [hrest] at hsplit hpoint
    obtain rfl : c = '.' := by simpa using hpoint
    have hname : name.toList = stem.reverse ++ '.' :: ending.reverse := by
      rw [← List.reverse_reverse name.toList, ← hsplit]
      simp
    refine ⟨String.ofList stem.reverse, String.ofList ending.reverse, ?_, String.toList_inj.1 ?_, ?_⟩
    · intro hempty
      obtain rfl : stem = [] := by simpa using congrArg String.toList hempty
      simp [hname] at hlong
    · simp [hname]
    · exact String.toList_inj.1 (by simp)

theorem isDocumentName_iff : isDocumentName name = true ↔ NamesDocument name := by
  unfold isDocumentName
  rw [List.contains_iff_mem]
  constructor
  · intro h
    have hsuffix : suffix name ≠ "" := by
      intro hempty
      rw [hempty] at h
      revert h
      decide
    obtain ⟨stem, ending, hstem, hname, hending⟩ := exists_of_suffix_ne_empty hsuffix
    rw [hending] at h
    exact ⟨stem, ending, hstem, hname, h⟩
  · rintro ⟨stem, ending, hstem, rfl, h⟩
    have hending : ending ≠ "" := by
      rintro rfl
      revert h
      decide
    rw [suffix_of_eq hstem hending (dot_notMem_ending h)]
    exact h

/-- The step up is no document. -/
theorem NamesDocument.ne_up (h : NamesDocument name) : name ≠ ".." := by
  rintro rfl
  have hdots := isDocumentName_iff.2 h
  revert hdots
  decide

/-! ## Folders -/

theorem place?_child (hplace : tree.place? path = some place) :
    tree.place? (path.child name) = tree.step place name := by
  unfold place? at hplace ⊢
  rw [Path.child, List.foldlM_append, hplace]
  simp


/-- The files in a folder are the items with one step more. -/
theorem mem_fileNames : name ∈ tree.fileNames place ↔ ∃ content, (place ++ [name], .file content) ∈ tree.items := by
  unfold fileNames
  rw [List.mem_filterMap]
  constructor
  · rintro ⟨⟨here, item⟩, hmem, hname⟩
    cases item with
    | folder => cases hname
    | file content =>
      obtain ⟨hplace, hlast⟩ : here.dropLast = place ∧ here.getLast? = some name := by simpa using hname
      rw [← hplace, List.dropLast_append_getLast? name hlast]
      exact ⟨content, hmem⟩
  · rintro ⟨content, hmem⟩
    exact ⟨_, hmem, by simp⟩

theorem IsSound.nodup_fileNames (h : tree.IsSound) : (tree.fileNames place).Nodup := by
  unfold fileNames
  refine List.pairwise_filterMap.2 ((List.pairwise_map.1 h.nodup).imp ?_)
  rintro ⟨here, item⟩ ⟨there, other⟩ hne name hname name' hname' rfl
  cases item with
  | folder => cases hname
  | file =>
    cases other with
    | folder => cases hname'
    | file =>
      obtain ⟨hplace, hlast⟩ : here.dropLast = place ∧ here.getLast? = some name := by simpa using hname
      obtain ⟨hplace', hlast'⟩ : there.dropLast = place ∧ there.getLast? = some name := by simpa using hname'
      apply hne
      rw [← List.dropLast_append_getLast? name hlast, ← List.dropLast_append_getLast? name hlast', hplace, hplace']

theorem IsSound.mem_documentNames (h : tree.IsSound) :
    name ∈ tree.documentNames place ↔ NamesDocument name ∧ tree.HasFile place name := by
  rw [documentNames, List.mem_mergeSort, List.mem_filter, mem_fileNames, isDocumentName_iff, and_comm]
  simp only [HasFile, h.at?_eq_file_iff]

theorem IsSound.sorted_documentNames (h : tree.IsSound) : (tree.documentNames place).Pairwise (· < ·) := by
  have hnodup : (tree.documentNames place).Nodup :=
    (List.mergeSort_perm _ _).nodup_iff.2 (h.nodup_fileNames.filter _)
  have hsorted : (tree.documentNames place).Pairwise fun a b => decide (a ≤ b) = true :=
    List.pairwise_mergeSort (fun a b c => by simpa using le_trans) (fun a b => by simpa using le_total a b) _
  refine (hsorted.and hnodup).imp fun ⟨hle, hne⟩ => lt_of_le_of_ne (of_decide_eq_true hle) hne

/-- The names in order are found by any way of putting them in order. -/
theorem IsSound.documentNames_eq {names : List String} (h : tree.IsSound) (hsorted : names.Pairwise (· < ·))
    (hperm : names.Perm ((tree.fileNames place).filter isDocumentName)) : tree.documentNames place = names := by
  refine h.sorted_documentNames.eq_of_mem_iff hsorted fun name => ?_
  rw [documentNames, List.mem_mergeSort, hperm.mem_iff]

/-! ## What a path stands for -/

theorem sources?_eq_none : tree.sources? path = none ↔ tree.item? path = none := by
  unfold sources? item?
  cases tree.place? path with
  | none => simp
  | some place =>
    cases hat : tree.at? place with
    | none => simp [hat]
    | some item => cases item <;> simp [hat]

theorem sources?_of_file (h : tree.item? path = some (.file content)) : tree.sources? path = some [path] := by
  obtain ⟨place, hplace, hat⟩ := Option.bind_eq_some_iff.1 h
  simp [sources?, hplace, hat]

theorem bytes?_of_file (h : tree.item? path = some (.file content)) : tree.bytes? path = some content := by
  obtain ⟨place, hplace, hat⟩ := Option.bind_eq_some_iff.1 h
  simp [bytes?, hplace, hat]

theorem sources?_of_folder (hplace : tree.place? path = some place) (hfolder : tree.at? place = some .folder) :
    tree.sources? path = some ((tree.documentNames place).map path.child) := by
  simp [sources?, hplace, hfolder]

theorem IsSound.standsFor_iff (h : tree.IsSound) :
    tree.StandsFor path files ↔ (tree.sources? path).getD [] = files := by
  constructor
  · rintro (hnothing | hfile | ⟨hplace, hfolder, hsorted, hnames⟩)
    · rw [sources?_eq_none.2 hnothing]
      rfl
    · rw [sources?_of_file hfile]
      rfl
    · rw [sources?_of_folder hplace hfolder, Option.getD_some]
      refine congrArg (List.map path.child) (h.sorted_documentNames.eq_of_mem_iff hsorted fun name => ?_)
      rw [h.mem_documentNames, hnames]
  · rintro rfl
    cases hplace : tree.place? path with
    | none =>
      have hitem : tree.item? path = none := by rw [item?, hplace]; rfl
      rw [sources?_eq_none.2 hitem]
      exact .nothing hitem
    | some place =>
      have hitem : tree.item? path = tree.at? place := by rw [item?, hplace]; rfl
      cases hat : tree.at? place with
      | none =>
        rw [hat] at hitem
        rw [sources?_eq_none.2 hitem]
        exact .nothing hitem
      | some item =>
        rw [hat] at hitem
        cases item with
        | file content =>
          rw [sources?_of_file hitem]
          exact .file hitem
        | folder =>
          rw [sources?_of_folder hplace hat]
          exact .folder hplace hat h.sorted_documentNames fun _ => h.mem_documentNames

theorem IsSound.forall₂_standsFor_iff {paths : List Path} {parts : List (List Path)} (h : tree.IsSound) :
    List.Forall₂ tree.StandsFor paths parts ↔ parts = paths.map fun path => (tree.sources? path).getD [] := by
  have hstands : tree.StandsFor = fun path files => (tree.sources? path).getD [] = files := by
    funext path files
    exact propext h.standsFor_iff
  rw [hstands]
  refine (List.forall₂_map_left_iff (R := fun files part => files = part)).symm.trans ?_
  rw [List.forall₂_eq_eq_eq, eq_comm]

/-- In which order the items of a tree are listed makes no difference to what paths stand for. -/
theorem IsSound.sources?_of_perm (h : tree.IsSound) (hhome : tree'.home = tree.home)
    (hperm : tree'.items.Perm tree.items) : tree'.sources? = tree.sources? := by
  have hat := at?_of_perm h hhome hperm
  have hnames : tree'.documentNames = tree.documentNames := by
    funext place
    refine (h.perm hhome hperm).sorted_documentNames.eq_of_mem_iff h.sorted_documentNames fun name => ?_
    rw [(h.perm hhome hperm).mem_documentNames, h.mem_documentNames, HasFile, HasFile, hat]
  funext path
  rw [sources?, sources?, place?_congr hhome hat, hat, hnames]

/-- What a path stands for are files. -/
theorem StandsFor.exists_content (hfiles : tree.StandsFor path files) (hfile : file ∈ files) :
    ∃ content, tree.item? file = some (.file content) := by
  cases hfiles with
  | nothing => cases hfile
  | file hitem =>
    obtain rfl := List.mem_singleton.1 hfile
    exact ⟨_, hitem⟩
  | @folder place names hplace hfolder hsorted hnames =>
    obtain ⟨name, hname, rfl⟩ := List.mem_map.1 hfile
    obtain ⟨hdocument, content, hat⟩ := (hnames name).1 hname
    refine ⟨content, ?_⟩
    -- a document's name is no step up, so it leads to what is in the folder
    have hstep : tree.step place name = some (place ++ [name]) := by
      unfold step
      rw [hfolder, hat]
      exact (if_neg hdocument.ne_up).trans (if_pos rfl)
    rw [item?, place?_child hplace, hstep]
    exact hat

/-! ## Trees that files are written to -/

theorem isSound_empty : ({} : FileTree).IsSound := ⟨List.nodup_nil, by simp⟩

/-- Something can be put where there is nothing, on the way to the working folder only a folder. -/
theorem IsSound.append (h : tree.IsSound) (hnew : ∀ e ∈ tree.items, e.1 ≠ place)
    (hhome : place <+: tree.home → item = .folder) :
    ({ tree with items := tree.items ++ [(place, item)] } : FileTree).IsSound where
  nodup := by
    rw [List.map_append, List.nodup_append]
    refine ⟨h.nodup, List.nodup_singleton _, ?_⟩
    intro a ha b hb
    obtain ⟨e, he, rfl⟩ := List.mem_map.1 ha
    obtain rfl := List.mem_singleton.1 hb
    exact hnew e he
  home := by
    intro e he
    rcases List.mem_append.1 he with he | he
    · exact h.home e he
    · obtain rfl := List.mem_singleton.1 he
      exact hhome

theorem IsSound.remove (h : tree.IsSound) (steps : List String) : (tree.remove steps).IsSound where
  nodup := h.nodup.sublist (List.filter_sublist.map _)
  home := fun e he => h.home e (List.mem_of_mem_filter he)

theorem addFolder_home : (tree.addFolder place).home = tree.home := by
  unfold addFolder
  split <;> rfl

theorem mem_addFolder {e : List String × FileItem} (he : e ∈ (tree.addFolder place).items) :
    e ∈ tree.items ∨ e = (place, .folder) := by
  unfold addFolder at he
  split at he
  · exact .inl he
  · exact (List.mem_append.1 he).imp id List.mem_singleton.1

theorem IsSound.addFolder (h : tree.IsSound) : (tree.addFolder place).IsSound := by
  unfold FileTree.addFolder
  split
  · exact h
  · rename_i hnone
    rw [Option.not_isSome_iff_eq_none, at?_eq_none] at hnone
    exact h.append hnone.2 fun _ => rfl

/-- Folders are added no further in than the path goes. -/
theorem IsSound.addFolders (h : tree.IsSound) (steps : List String) :
    (tree.addFolders steps).IsSound ∧ (tree.addFolders steps).home = tree.home ∧
      ∀ e ∈ (tree.addFolders steps).items, e ∈ tree.items ∨ e.1.length ≤ tree.home.length + steps.length := by
  refine List.foldlRecOn (motive := fun t : FileTree => t.IsSound ∧ t.home = tree.home ∧
    ∀ e ∈ t.items, e ∈ tree.items ∨ e.1.length ≤ tree.home.length + steps.length) _ _ ⟨h, rfl, fun _ he => .inl he⟩ ?_
  rintro t ⟨hsound, hhome, hitems⟩ n -
  refine ⟨hsound.addFolder, addFolder_home.trans hhome, ?_⟩
  intro e he
  rcases mem_addFolder he with he | rfl
  · exact hitems e he
  · right
    rw [List.length_append, List.length_take]
    omega

/-- A tree that a file is written to stays sound. -/
theorem IsSound.write (h : tree.IsSound) (hsteps : steps ≠ []) : (tree.write steps content).IsSound := by
  have hlen : steps.dropLast.length < steps.length := by
    rw [List.length_dropLast]
    have := List.length_pos_iff.2 hsteps
    omega
  obtain ⟨hsound, hhome, hitems⟩ := (h.remove steps).addFolders steps.dropLast
  refine hsound.append ?_ ?_
  · -- what was there has been removed, and the folders end before
    intro e he heq
    rcases hitems e he with hkept | hshort
    · have hfar := (List.mem_filter.1 hkept).2
      rw [heq, List.isPrefixOf_iff_prefix.2 List.prefix_rfl] at hfar
      cases hfar
    · rw [heq, List.length_append] at hshort
      change _ ≤ tree.home.length + _ at hshort
      omega
  · intro hprefix
    rw [hhome] at hprefix
    have hshort := hprefix.length_le
    change (tree.home ++ steps).length ≤ tree.home.length at hshort
    rw [List.length_append] at hshort
    omega

end FileTree
end PolicyGate
