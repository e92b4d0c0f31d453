/-
  StyleCheck.Rule.NamespaceIndent — what stands directly in a namespace is not indented.

  The rule looks at classes and namespaces that begin within the namespace, and at declarations of
  classes that are defined elsewhere. Macro definitions are left alone.
-/

import StyleCheck.Nesting.State

namespace StyleCheck.Rule

def isMacroDefinition (s : Source) (n : Nat) : Bool :=
  Text.startsWith (s.elided n) "#define".toList || (0 < n && continued.occursIn (s.elided (n - 1)))

open Pattern in
def forwardClass : Pattern :=
  start ++ blanks ++ many (group 1 (edge ++ "template" ++ edge)) ++ anything ++ "class"
    ++ some1 blank ++ some1 word ++ ";" ++ blanks ++ finish

/-- The line declares a class without defining it. -/
def isForwardClass (s : Source) (n : Nat) : Bool := forwardClass.opens (s.elided n)

/-- The innermost block is a class or a namespace that was entered from a namespace. -/
def entersFromNamespace (st : Nesting) : Bool :=
  (st.top?.map Block.checksIndentation).getD false
    && st.entered && (st.previous?.map Block.isNamespace).getD false

def namespaceIndent (s : Source) (st : Nesting) (n : Nat) : List Finding :=
  let forward := isForwardClass s n
  let isItem := if forward then st.inNamespace else entersFromNamespace st
  Finding.when
    (isItem && !isMacroDefinition s n && ((s.elided n).head?.map Text.isBlank).getD false)
    ⟨n, .runtimeIndentationNamespace, 4, "Do not indent within a namespace"⟩

end StyleCheck.Rule
