/-
  OvsdbModels/Go/Generate.lean
  ============================
  Writing the files that are generated for a database.
-/
import OvsdbModels.Files.Volume
import OvsdbModels.Go.Preview

namespace OvsdbModels.Go

open Files (Overwrite Volume WriteResult)

/-- What was done with the generated files, by their paths below the output directory. -/
structure Report where
  written : List String := []
  unchanged : List String := []
  deriving DecidableEq, Repr

def Report.add (report : Report) (path : String) : WriteResult → Report
  | .written => { report with written := report.written ++ [path] }
  | .unchanged => { report with unchanged := report.unchanged ++ [path] }

inductive GenerateError where
  | job (error : JobError)
  | unwritable (path : String)
  deriving DecidableEq, Repr

def GenerateError.message : GenerateError → String
  | job error => error.message
  | unwritable path => "failed to write '" ++ path ++ "'"

variable {m : Type → Type} [Monad m]

/-- Writes files into a directory, up to the first that cannot be written. -/
def writeFiles (volume : Volume m) (overwrite : Overwrite) (dir : String) (report : Report) :
    List File → m (Except GenerateError Report)
  | [] => pure (.ok report)
  | file :: rest => do
    let path := Files.joinPath dir file.path
    match ← volume.writeText overwrite path file.content with
    | none => pure (.error (.unwritable path))
    | some result => writeFiles volume overwrite dir (report.add file.path result) rest

/-- Generates the files of a job into a directory; nothing is written unless all files are known. -/
def Job.generate (job : Job) (volume : Volume m) (overwrite : Overwrite) (dir : String) :
    m (Except GenerateError Report) :=
  match job.preview with
  | .error error => pure (.error (.job error))
  | .ok files => writeFiles volume overwrite dir {} files

end OvsdbModels.Go
