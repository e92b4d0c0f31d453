/-
  StyleCheck.Rule.Multiline — comments and strings that go on beyond their line.

  The rules read line by line, so a block comment amid code and a string that is not closed on its
  line may lead them astray.
-/

import StyleCheck.Source.Lines

namespace StyleCheck.Rule

def multiline (s : Source) (n : Nat) : List Finding :=
  let line := Text.substitute "\\\\".toList [] (s.elided n)
  Finding.when
      (Text.occurrences "*/".toList line < Text.occurrences "/*".toList line)
      ⟨n, .readabilityMultilineComment, 5,
        "Complex multi-line /*...*/-style comment found. Lint may give bogus warnings.  " ++
          "Consider replacing these with //-style comments, with #if 0...#endif, " ++
          "or with more clearly structured multi-line comments."⟩
    ++ Finding.when
      ((line.count '"' - Text.occurrences "\\\"".toList line) % 2 == 1)
      ⟨n, .readabilityMultilineString, 5,
        "Multi-line string (\"...\") found.  This lint script doesn't " ++
          "do well with such strings, and may give bogus warnings.  " ++
          "Use C++11 raw strings or concatenation instead."⟩

end StyleCheck.Rule
