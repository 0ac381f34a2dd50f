import Drafting.Text.Lines
import Drafting.Text.Quoted

/-!
# Paths of files

A path names a file by the directories that lead to it, with slashes between them.
Steps that lead nowhere are left out of it before a file is opened. Of what can be
wrong with a file only the kind matters here, and how it is told.
-/

namespace Drafting

namespace FilePath

/-- Where a path begins: at the root, if it begins with a slash. Exactly two slashes
are kept. -/
def root (path : List Char) : List Char :=
  match path with
  | '/' :: '/' :: '/' :: _ => ['/']
  | '/' :: '/' :: _ => ['/', '/']
  | '/' :: _ => ['/']
  | _ => []

/-- The steps of a path that lead somewhere. -/
def steps (path : List Char) : List (List Char) :=
  (Text.split '/' path).filter fun step => !step.isEmpty && step != ['.']

/-- A path without the steps that lead nowhere. Where none is left it names the
working directory. -/
def normal (path : String) : String :=
  match root path.toList ++ Text.join ['/'] (steps path.toList) with
  | [] => "."
  | characters => String.ofList characters

/-- The ending of the last step of a path: the last point in it and what follows. A
point at either end of the step begins no ending. -/
def ending (path : String) : String :=
  let name := (steps path.toList).getLast?.getD []
  let behind := (name.reverse.takeWhile (· != '.')).reverse
  if behind.isEmpty || name.length ≤ behind.length + 1 then ""
  else String.ofList ('.' :: behind)

end FilePath

/-- Why a file cannot be opened. -/
inductive FileProblem where
  | missing
  | notDirectory
  | isDirectory
  | nameTooLong
  | notName
  deriving DecidableEq, Repr

/-- The words for a problem with the file of a path. -/
def FileProblem.message (path : String) : FileProblem → String
  | .missing => "[Errno 2] No such file or directory: " ++ Text.quoted path
  | .notDirectory => "[Errno 20] Not a directory: " ++ Text.quoted path
  | .isDirectory => "[Errno 21] Is a directory: " ++ Text.quoted path
  | .nameTooLong => "[Errno 36] File name too long: " ++ Text.quoted path
  | .notName => "embedded null byte"

end Drafting
