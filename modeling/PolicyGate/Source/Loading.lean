import PolicyGate.Document.Merge
import PolicyGate.Source.FileTree
import PolicyGate.Text.Case
import PolicyGate.Text.Lines
import PolicyGate.Yaml.Meaning

/-!
# Loading documents

Documents are loaded from paths in the given order, and each is laid over what was loaded before. A
folder stands for the documents in it, which have one of a few endings, in the order of their names. A
path to nothing is passed over with a warning.
-/

namespace PolicyGate

/-- Why documents cannot be loaded. -/
inductive LoadError where
  /-- A file is no text. -/
  | notText (path : Path)
  /-- A text is no document. -/
  | notDocument (path : Path)
  /-- A scalar of a document does not keep its promise. -/
  | scalar (path : Path) (fault : Yaml.Fault)
  /-- A document is no mapping. -/
  | notMapping (path : Path) (kind : String)
  | merge (cause : MergeError)
deriving DecidableEq, Repr

/-- The error of a file that is no document, in words. -/
def LoadError.message : LoadError → String
  | .notDocument path => path.text ++ ": invalid YAML/JSON"
  | .notMapping path kind => path.text ++ ": document root must be a mapping, got " ++ kind
  | .scalar _ fault => fault.message
  | .merge (.conflict cause) => cause.message
  | .notText _ | .merge .tooManyDigits => ""

/-- Documents laid over each other, and where they came from. -/
structure LoadedPolicy where
  raw : Value := .map []
  sources : List Path := []
  warnings : List String := []

namespace FileTree

/-- The endings of the names of documents. -/
def documentSuffixes : List String := [".yaml", ".yml", ".json"]

/-- Is this the name of a document? -/
def isDocumentName (name : String) : Bool := documentSuffixes.contains (Text.lower (suffix name))

/-- The names of the documents in a folder, in order. -/
def documentNames (tree : FileTree) (place : List String) : List String :=
  ((tree.fileNames place).filter isDocumentName).mergeSort fun a b => a ≤ b

/-- The files that a path stands for; nothing if there is nothing. -/
def sources? (tree : FileTree) (path : Path) : Option (List Path) := do
  let place ← tree.place? path
  match ← tree.at? place with
  | .file _ => return [path]
  | .folder => return (tree.documentNames place).map path.child

/-- The bytes of the file that a path leads to. -/
def bytes? (tree : FileTree) (path : Path) : Option (List UInt8) := do
  match ← tree.at? (← tree.place? path) with
  | .file content => return content
  | .folder => none

end FileTree

namespace LoadedPolicy

/-- The document that some bytes are. An empty one has no entries. -/
def document (path : Path) (bytes : List UInt8) : Except LoadError Value := do
  let some text := Text.ofFile? bytes | throw (.notText path)
  match Yaml.read text with
  | .error .malformed => throw (.notDocument path)
  | .error fault => throw (.scalar path fault)
  | .ok .null => return .map []
  | .ok (.map entries) => return .map entries
  | .ok v => throw (.notMapping path v.kindName)

/-- What was loaded, with one more file laid over it. -/
def addFile (tree : FileTree) (loaded : LoadedPolicy) (path : Path) :
    Except LoadError LoadedPolicy := do
  let later ← document path ((tree.bytes? path).getD [])
  let raw ← (Document.merge loaded.raw later).mapError LoadError.merge
  return { loaded with raw, sources := loaded.sources ++ [path] }

/-- What was loaded, with all that a path stands for laid over it. -/
def addPath (tree : FileTree) (loaded : LoadedPolicy) (path : Path) :
    Except LoadError LoadedPolicy :=
  match tree.sources? path with
  | none => .ok { loaded with warnings := loaded.warnings ++ ["Policy source not found: " ++ path.text] }
  | some files => files.foldlM (addFile tree) loaded

/-- What some paths stand for, laid over each other. -/
def ofPaths (tree : FileTree) (paths : List Path) : Except LoadError LoadedPolicy :=
  paths.foldlM (addPath tree) {}

end LoadedPolicy
end PolicyGate
