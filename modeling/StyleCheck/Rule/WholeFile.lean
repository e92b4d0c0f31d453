/-
  StyleCheck.Rule.WholeFile — what is asked of a file as a whole.

  One of its first ten lines has a copyright notice; no line holds a replacement character or a
  null character; and its last line is empty, so that the file ends in a line feed. The lines are
  given between their two marks.
-/

import StyleCheck.Finding
import StyleCheck.Pattern.Search

namespace StyleCheck.Rule.WholeFile

open Pattern in
def copyrightNotice : Pattern :=
  "Copyright".toList.foldr (fun c p => one (.caseless (.among [c])) ++ p) empty

def copyright (lines : List Text) : List Finding :=
  Finding.when (!((lines.drop 1).take 10).any copyrightNotice.occursIn)
    ⟨0, .legalCopyright, 5,
      "No copyright message found.  You should have a line: " ++
        "\"Copyright [year] <Copyright Owner>\""⟩

def badCharacters (lines : List Text) : List Finding :=
  lines.zipIdx.flatMap fun (line, n) =>
    Finding.when (line.contains '\ufffd')
        ⟨n, .readabilityUtf8, 5,
          "Line contains invalid UTF-8 (or Unicode replacement character)."⟩
      ++ Finding.when (line.contains '\x00') ⟨n, .readabilityNul, 5, "Line contains NUL byte."⟩

def finalLineFeed (lines : List Text) : List Finding :=
  let last := lines.length - 2
  Finding.when (lines.length < 3 || !(lines.getD last []).isEmpty)
    ⟨last, .whitespaceEndingNewline, 5,
      "Could not find a newline character at the end of the file."⟩

end StyleCheck.Rule.WholeFile
