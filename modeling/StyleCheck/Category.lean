/-
  StyleCheck.Category — the kinds of finding.

  Every finding belongs to one category. Its name is a family and a topic with a slash between
  them; filters and suppression comments speak of categories by name, and `all` is the order in
  which they are listed. Names that are no longer in use are still understood in suppression
  comments (`retired`).
-/

import StyleCheck.Text.Basic

namespace StyleCheck

inductive Category where
  | buildClass
  | buildCxx11
  | buildCxx14
  | buildTr1
  | buildDeprecated
  | buildEndifComment
  | buildExplicitMakePair
  | buildForwardDecl
  | buildHeaderGuard
  | buildInclude
  | buildIncludeAlpha
  | buildIncludeOrder
  | buildIncludeWhatYouUse
  | buildNamespaces
  | buildPrintfFormat
  | buildStorageClass
  | legalCopyright
  | readabilityAltTokens
  | readabilityBraces
  | readabilityCasting
  | readabilityCheck
  | readabilityConstructors
  | readabilityFnSize
  | readabilityInheritance
  | readabilityMultilineComment
  | readabilityMultilineString
  | readabilityNamespace
  | readabilityNolint
  | readabilityNul
  | readabilityStrings
  | readabilityTodo
  | readabilityUtf8
  | runtimeArrays
  | runtimeCasting
  | runtimeExplicit
  | runtimeInt
  | runtimeInit
  | runtimeInvalidIncrement
  | runtimeMemberStringReferences
  | runtimeMemset
  | runtimeIndentationNamespace
  | runtimeOperator
  | runtimePrintf
  | runtimePrintfFormat
  | runtimeReferences
  | runtimeString
  | runtimeThreadsafeFn
  | runtimeVlog
  | whitespaceBlankLine
  | whitespaceBraces
  | whitespaceComma
  | whitespaceComments
  | whitespaceEmptyConditionalBody
  | whitespaceEmptyIfBody
  | whitespaceEmptyLoopBody
  | whitespaceEndOfLine
  | whitespaceEndingNewline
  | whitespaceForcolon
  | whitespaceIndent
  | whitespaceLineLength
  | whitespaceNewline
  | whitespaceOperators
  | whitespaceParens
  | whitespaceSemicolon
  | whitespaceTab
  | whitespaceTodo
  deriving DecidableEq, Repr

namespace Category

def all : List Category := [
  .buildClass, .buildCxx11, .buildCxx14, .buildTr1, .buildDeprecated, .buildEndifComment,
  .buildExplicitMakePair, .buildForwardDecl, .buildHeaderGuard, .buildInclude,
  .buildIncludeAlpha, .buildIncludeOrder, .buildIncludeWhatYouUse, .buildNamespaces,
  .buildPrintfFormat, .buildStorageClass, .legalCopyright, .readabilityAltTokens,
  .readabilityBraces, .readabilityCasting, .readabilityCheck, .readabilityConstructors,
  .readabilityFnSize, .readabilityInheritance, .readabilityMultilineComment,
  .readabilityMultilineString, .readabilityNamespace, .readabilityNolint, .readabilityNul,
  .readabilityStrings, .readabilityTodo, .readabilityUtf8, .runtimeArrays, .runtimeCasting,
  .runtimeExplicit, .runtimeInt, .runtimeInit, .runtimeInvalidIncrement,
  .runtimeMemberStringReferences, .runtimeMemset, .runtimeIndentationNamespace,
  .runtimeOperator, .runtimePrintf, .runtimePrintfFormat, .runtimeReferences, .runtimeString,
  .runtimeThreadsafeFn, .runtimeVlog, .whitespaceBlankLine, .whitespaceBraces, .whitespaceComma,
  .whitespaceComments, .whitespaceEmptyConditionalBody, .whitespaceEmptyIfBody,
  .whitespaceEmptyLoopBody, .whitespaceEndOfLine, .whitespaceEndingNewline, .whitespaceForcolon,
  .whitespaceIndent, .whitespaceLineLength, .whitespaceNewline, .whitespaceOperators,
  .whitespaceParens, .whitespaceSemicolon, .whitespaceTab, .whitespaceTodo]

def label : Category → String
  | .buildClass => "build/class"
  | .buildCxx11 => "build/c++11"
  | .buildCxx14 => "build/c++14"
  | .buildTr1 => "build/c++tr1"
  | .buildDeprecated => "build/deprecated"
  | .buildEndifComment => "build/endif_comment"
  | .buildExplicitMakePair => "build/explicit_make_pair"
  | .buildForwardDecl => "build/forward_decl"
  | .buildHeaderGuard => "build/header_guard"
  | .buildInclude => "build/include"
  | .buildIncludeAlpha => "build/include_alpha"
  | .buildIncludeOrder => "build/include_order"
  | .buildIncludeWhatYouUse => "build/include_what_you_use"
  | .buildNamespaces => "build/namespaces"
  | .buildPrintfFormat => "build/printf_format"
  | .buildStorageClass => "build/storage_class"
  | .legalCopyright => "legal/copyright"
  | .readabilityAltTokens => "readability/alt_tokens"
  | .readabilityBraces => "readability/braces"
  | .readabilityCasting => "readability/casting"
  | .readabilityCheck => "readability/check"
  | .readabilityConstructors => "readability/constructors"
  | .readabilityFnSize => "readability/fn_size"
  | .readabilityInheritance => "readability/inheritance"
  | .readabilityMultilineComment => "readability/multiline_comment"
  | .readabilityMultilineString => "readability/multiline_string"
  | .readabilityNamespace => "readability/namespace"
  | .readabilityNolint => "readability/nolint"
  | .readabilityNul => "readability/nul"
  | .readabilityStrings => "readability/strings"
  | .readabilityTodo => "readability/todo"
  | .readabilityUtf8 => "readability/utf8"
  | .runtimeArrays => "runtime/arrays"
  | .runtimeCasting => "runtime/casting"
  | .runtimeExplicit => "runtime/explicit"
  | .runtimeInt => "runtime/int"
  | .runtimeInit => "runtime/init"
  | .runtimeInvalidIncrement => "runtime/invalid_increment"
  | .runtimeMemberStringReferences => "runtime/member_string_references"
  | .runtimeMemset => "runtime/memset"
  | .runtimeIndentationNamespace => "runtime/indentation_namespace"
  | .runtimeOperator => "runtime/operator"
  | .runtimePrintf => "runtime/printf"
  | .runtimePrintfFormat => "runtime/printf_format"
  | .runtimeReferences => "runtime/references"
  | .runtimeString => "runtime/string"
  | .runtimeThreadsafeFn => "runtime/threadsafe_fn"
  | .runtimeVlog => "runtime/vlog"
  | .whitespaceBlankLine => "whitespace/blank_line"
  | .whitespaceBraces => "whitespace/braces"
  | .whitespaceComma => "whitespace/comma"
  | .whitespaceComments => "whitespace/comments"
  | .whitespaceEmptyConditionalBody => "whitespace/empty_conditional_body"
  | .whitespaceEmptyIfBody => "whitespace/empty_if_body"
  | .whitespaceEmptyLoopBody => "whitespace/empty_loop_body"
  | .whitespaceEndOfLine => "whitespace/end_of_line"
  | .whitespaceEndingNewline => "whitespace/ending_newline"
  | .whitespaceForcolon => "whitespace/forcolon"
  | .whitespaceIndent => "whitespace/indent"
  | .whitespaceLineLength => "whitespace/line_length"
  | .whitespaceNewline => "whitespace/newline"
  | .whitespaceOperators => "whitespace/operators"
  | .whitespaceParens => "whitespace/parens"
  | .whitespaceSemicolon => "whitespace/semicolon"
  | .whitespaceTab => "whitespace/tab"
  | .whitespaceTodo => "whitespace/todo"

def name (c : Category) : Text := c.label.toList

def ofName? (s : Text) : Option Category := all.find? fun c => c.name == s

def retired : List Text := ["readability/streams".toList, "readability/function".toList]

end Category

end StyleCheck
