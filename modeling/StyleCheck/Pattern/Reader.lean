/-
  StyleCheck.Pattern.Reader — patterns from their written form.

  The tokens are taken in from the left. Round brackets open a new level, which becomes one item of
  the level around it when they are closed; a bar begins the next alternative of the level. A
  repetition takes the last item, which must not be a place or a repetition itself. The forms that
  `Token` does not read make a pattern malformed here, even where they are well formed.
-/

import StyleCheck.Finding
import StyleCheck.Pattern.Token

namespace StyleCheck.Pattern

/-- A part of a sequence. -/
structure Item where
  pattern : Pattern
  repeatable : Bool := true

/-- What has been read of a bracketed part: the alternatives before the current one and the items of
the current one, the latest first. -/
structure Level where
  flags : Flags
  /-- The number of the group, if the part is remembered. -/
  number? : Option Nat := none
  /-- What is made of the part when it is closed. -/
  close : Pattern → Pattern := id
  earlier : List Pattern := []
  items : List Item := []

namespace Level

def sequence : List Pattern → Pattern
  | [] => empty
  | [p] => p
  | p :: rest => seq p (sequence rest)

def current (l : Level) : Pattern := sequence (l.items.reverse.map Item.pattern)

def pattern (l : Level) : Pattern := l.close (choice (l.earlier.reverse ++ [l.current]))

def push (l : Level) (p : Pattern) : Level := { l with items := ⟨p, true⟩ :: l.items }

/-- Adds a place. -/
def pushPlace (l : Level) (p : Pattern) : Level := { l with items := ⟨p, false⟩ :: l.items }

def bar (l : Level) : Level := { l with earlier := l.current :: l.earlier, items := [] }

/-- Nothing has been read. -/
def isFresh (l : Level) : Bool := l.earlier.isEmpty && l.items.isEmpty

end Level

/-- At most `most` times, more first. -/
def atMost (most : Option Nat) (p : Pattern) : Pattern :=
  match most with
  | none => many p
  | some n => upTo n p

/-- At most `most` times, fewer first. -/
def fewAtMost (most : Option Nat) (p : Pattern) : Pattern :=
  match most with
  | none => few p
  | some n => fewTo n p

/-- `p` at least `least` and at most `most` times. -/
def between (least : Nat) (most : Option Nat) (manner : Manner) (p : Pattern) : Pattern :=
  let more := most.map (· - least)
  match manner with
  | .moreFirst => times least p ++ atMost more p
  | .fewerFirst => times least p ++ fewAtMost more p
  | .mostOnly => times least (once p) ++ once (atMost more (once p))

/-- Every character. -/
def anyAtAll : Pattern := one (.other (.among []))

def textEnd : Pattern := notAhead anyAtAll

/-- A place in a text that is not empty, with word characters on both sides or on none. -/
def notEdge : Pattern := notAhead edge ++ notAhead (start ++ textEnd)

structure Reader where
  inner : Level
  outer : List Level := []
  /-- The groups opened so far. -/
  groups : Nat := 0

namespace Reader

def push (r : Reader) (p : Pattern) : Reader := { r with inner := r.inner.push p }

def pushPlace (r : Reader) (p : Pattern) : Reader := { r with inner := r.inner.pushPlace p }

def isOpen (r : Reader) (n : Nat) : Bool := (r.inner :: r.outer).any fun l => l.number? == some n

def repeatLast? (r : Reader) (least : Nat) (most : Option Nat) (manner : Manner) : Option Reader :=
  match r.inner.items with
  | [] => none
  | item :: items =>
    if !item.repeatable || most.any (· < least) then none
    else
      let p := between least most manner item.pattern
      some { r with inner := { r.inner with items := ⟨p, false⟩ :: items } }

def «open» (r : Reader) (b : Bracketing) : Reader :=
  let flags := r.inner.flags
  let outer := r.inner :: r.outer
  match b with
  | .capture =>
    let n := r.groups + 1
    ⟨{ flags := flags, number? := some n, close := group n }, outer, n⟩
  | .plain on off => ⟨{ flags := (flags.union on).without off }, outer, r.groups⟩
  | .ahead => ⟨{ flags := flags, close := Pattern.ahead }, outer, r.groups⟩
  | .notAhead => ⟨{ flags := flags, close := Pattern.notAhead }, outer, r.groups⟩
  | .once => ⟨{ flags := flags, close := Pattern.once }, outer, r.groups⟩

def close? (r : Reader) : Option Reader :=
  match r.outer with
  | [] => none
  | level :: outer => some ⟨level.push r.inner.pattern, outer, r.groups⟩

def step? (r : Reader) : Token → Option Reader
  | .set k => some (r.push (one (k.toSet r.inner.flags.caseless)))
  | .point => some (r.push (if r.inner.flags.feeds then anyAtAll else Pattern.any))
  | .caret => some (r.pushPlace (if r.inner.flags.lines then lineStart else start))
  | .dollar => some (r.pushPlace (if r.inner.flags.lines then lineEnd else finish))
  | .textStart => some (r.pushPlace start)
  | .textEnd => some (r.pushPlace Pattern.textEnd)
  | .edge => some (r.pushPlace edge)
  | .notEdge => some (r.pushPlace Pattern.notEdge)
  | .again n => if n ≤ r.groups && !r.isOpen n then some (r.push (again n)) else none
  | .times least most manner => r.repeatLast? least most manner
  | .bar => some { r with inner := r.inner.bar }
  | .opening b => some (r.open b)
  | .closing => r.close?
  | .flags f =>
    if r.outer.isEmpty && r.inner.isFresh then
      some { r with inner := { r.inner with flags := r.inner.flags.union f } }
    else none

end Reader

/-- The pattern written as `s`. -/
def read (flags : Flags) (s : Text) : Except Failure Pattern :=
  match (Token.read? s).bind (·.foldlM Reader.step? { inner := { flags := flags } }) with
  | some ⟨whole, [], _⟩ => .ok whole.pattern
  | _ => .error .malformedPattern

end StyleCheck.Pattern
