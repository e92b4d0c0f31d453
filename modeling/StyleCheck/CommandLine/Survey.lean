/-
  StyleCheck.CommandLine.Survey — which paths a run may look at.

  A run is a function of a file tree, so the tree has to be there before the run begins. For the
  files to be checked `nearby` lists the files whose contents may matter and `marks` the entries of
  which only the existence matters; `companions` lists the headers a source file may need, once its
  text is known. It does no harm if some of these paths do not exist.
-/

import StyleCheck.CommandLine.Run

namespace StyleCheck.CommandLine.Survey

/-- The files that the arguments ask to check. -/
def files (args : List Text) : List Text :=
  match prepare {} args with
  | .ok (_, files) => files.filter (· != ['-'])
  | .error _ => []

/-- The directory of a file and all directories above it. -/
def directoriesOf (here file : Text) : List Text :=
  (Path.ascent (Path.resolve here file)).map (·.1)

/-- The file, and the configurations of its directories. -/
def nearby (here file : Text) : List Text :=
  file :: (directoriesOf here file).map fun dir => Path.join dir Configuration.fileName

/-- The marks of checkouts in the directories of a file, and its own header. -/
def marks (here file : Text) : List Text :=
  let entries := [".git".toList, ".hg".toList, ".svn".toList]
  (Path.withoutExtension file ++ ".h".toList)
    :: (directoriesOf here file).flatMap fun dir => entries.map (Path.join dir)

/-- The headers of the module of a file, as far as its text includes them. -/
def companions (tree : FileTree) (file : Text) : List Text :=
  let path := Required.temporarySource.replaceAll ".cc".toList (Repository.fullName tree file)
  ((Text.feedLines ((tree.text? file).getD [])).filterMap Include.ofLine?).filterMap fun inc =>
    match Module.lead? tree path inc.path with
    | .ok (some lead) => some (lead ++ inc.path)
    | _ => none

end StyleCheck.CommandLine.Survey
