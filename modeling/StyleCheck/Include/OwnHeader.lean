/-
  StyleCheck.Include.OwnHeader — a source file includes the header that belongs to it.

  The header has the same path with another extension; if there is none, or the file is a test,
  nothing is asked. It counts as included if its name is part of a name that is included, or the
  other way round.
-/

import StyleCheck.Include.Module
import StyleCheck.Include.Table

namespace StyleCheck.OwnHeader

/-- The line of the first include that is not on line nought; nought if there is none. -/
def firstLine (entries : List IncludeEntry) : Int :=
  ((entries.find? fun e => e.line != 0).map (·.line)).getD 0

def isIncluded (header : Text) (entries : List IncludeEntry) : Bool :=
  entries.any fun e => Text.holds e.path header || Text.holds header e.path

def findings (t : FileTree) (file : Text) (table : IncludeTable) : Except Failure (List Finding) := do
  let name ← Repository.name t file
  let parts := Repository.Parts.ofName name
  let header := file.take (file.length - parts.extension.length) ++ ".h".toList
  if Module.testEnding.occursIn parts.base || !t.exists header then return []
  else
    let headerName ← Repository.name t header
    return Finding.when (!isIncluded headerName table.entries)
      ⟨firstLine table.entries, .buildInclude, 5,
        String.ofList name ++ " should include its header file " ++ String.ofList headerName⟩

end StyleCheck.OwnHeader
