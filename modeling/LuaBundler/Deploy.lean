import LuaBundler.Digest.Sha
import LuaBundler.Files.Temporary

/-!
# Writing and deploying bundles

A bundle is written to a temporary file next to where it belongs and then moved into place, so
nobody sees part of it. Deploying copies a file, byte for byte, under its own name into the runtime
directory. An artifact says where the bytes are, how many, and their digest.
-/

namespace LuaBundler

open Files Text

/-- A file that was written, and what it holds. -/
structure Artifact where
  path : Path
  sha256 : String
  size : Nat
  deriving Repr, DecidableEq

/-- The artifact of bytes at a path. -/
def Artifact.describe (path : Path) (bytes : Bytes) : Artifact :=
  ⟨path, Digest.sha256 bytes, bytes.length⟩

/-- Why a bundle cannot be written or deployed. -/
inductive DeployError where
  | createOutputDir (dir : Path) (cause : FileError)
  | createTemporary (dir : Path) (cause : FileError)
  | write (path : Path) (cause : FileError)
  | move (path : Path) (cause : FileError)
  | noFileName (path : Path)
  | createDeployDir (dir : Path) (cause : FileError)
  | copy (source target : Path) (cause : FileError)
  | read (path : Path) (cause : FileError)
  deriving Repr, DecidableEq

/-- The message of each cause, and what caused it. -/
def DeployError.chain : DeployError → List String
  | createOutputDir dir cause =>
    ["Failed to create output directory " ++ dir.text, cause.message]
  | createTemporary dir cause =>
    ["Failed to create temporary file in " ++ dir.text, cause.message]
  | write path cause => ["Failed to write bundle for " ++ path.text, cause.message]
  | move path cause =>
    ["Failed to move bundle into place at " ++ path.text,
      "failed to persist temporary file: " ++ cause.message, cause.message]
  | noFileName path => ["Path " ++ path.text ++ " has no file name"]
  | createDeployDir dir cause =>
    ["Failed to create deploy directory " ++ dir.text, cause.message]
  | copy source target cause =>
    ["Failed to deploy " ++ source.text ++ " to " ++ target.text, cause.message]
  | read path cause => ["Failed to read " ++ path.text, cause.message]

namespace Deploy

/-- The outcome of a step and the machine after it. -/
abbrev Outcome (α : Type) := Except DeployError α × Machine

/-! ### Writing -/

/-- Fills a temporary file and moves it onto a path; a step that fails lets go of it. -/
def finish (m : Machine) (temp : Place) (path : Path) (bytes : Bytes) : Outcome Artifact :=
  match m.fill temp bytes with
  | (.error e, m) => (.error (.write path e), m.discard temp)
  | (.ok (), m) =>
    match m.renameFile temp path with
    | (.error e, m) => (.error (.move path e), m.discard temp)
    | (.ok (), m) => (.ok (.describe path bytes), m)

/-- Writes a text to a name in the output directory, all of it or nothing. -/
def writeArtifact (m : Machine) (outputDir : Path) (name text : String) : Outcome Artifact :=
  match m.createDirs outputDir with
  | (.error e, m) => (.error (.createOutputDir outputDir e), m)
  | (.ok (), m) =>
    match m.createTemporary outputDir with
    | (.error e, m) => (.error (.createTemporary outputDir e), m)
    | (.ok temp, m) => finish m temp (outputDir.join ⟨name⟩) (encodeString text)

/-! ### Deploying -/

/-- Copies a file into a directory under its own name, and gives the path of the copy. -/
def copyInto (m : Machine) (source dir : Path) : Outcome Path :=
  match source.fileName? with
  | none => (.error (.noFileName source), m)
  | some name =>
    match m.createDirs dir with
    | (.error e, m) => (.error (.createDeployDir dir e), m)
    | (.ok (), m) =>
      let target := dir.join ⟨name⟩
      match m.copy source target with
      | (.error e, m) => (.error (.copy source target e), m)
      | (.ok (), m) => (.ok target, m)

/-- Deploys a file that stands alone; the artifact describes the copy by what was read before. -/
def deploySingleFile (m : Machine) (source dir : Path) : Outcome Artifact :=
  match m.read source with
  | .error e => (.error (.read source e), m)
  | .ok bytes =>
    match copyInto m source dir with
    | (.error e, m) => (.error e, m)
    | (.ok path, m) => (.ok (.describe path bytes), m)

/-! ### Publishing -/

/-- Where a bundle goes; without a deploy directory it is only written. -/
structure Target where
  outputDir : Path
  outputName : String
  deployDir : Option Path
  deriving Repr, DecidableEq

/-- A bundle that was written, and where it was deployed. -/
structure Published where
  artifact : Artifact
  deployed : Option Path
  deriving Repr, DecidableEq

/-- Writes a bundle, and deploys it if the target says where. -/
def publish (m : Machine) (bundle : String) (target : Target) : Outcome Published :=
  match writeArtifact m target.outputDir target.outputName bundle with
  | (.error e, m) => (.error e, m)
  | (.ok artifact, m) =>
    match target.deployDir with
    | none => (.ok ⟨artifact, none⟩, m)
    | some dir =>
      match copyInto m artifact.path dir with
      | (.error e, m) => (.error e, m)
      | (.ok path, m) => (.ok ⟨artifact, some path⟩, m)

end Deploy

end LuaBundler
