import GatewayConfig.Text.Lowercase

/-! # Patterns

Regular expressions for whole texts, matched by derivatives: every character turns the pattern
into one for the rest of the text. A class of characters can disregard case in the sense of simple
case folding, and then it may have more members than its ranges show.
-/

namespace GatewayConfig

namespace Text

/-- The code point of the simple folded form. Two characters differ in case only if they share it. -/
def foldCode (n : Nat) : Nat :=
  match foldingRuns.find? (·.covers n) with
  | some r => ((n : Int) + r.shift).toNat
  | none => lowerCode n

def CodeRange.between (first last : Char) : CodeRange := ⟨first.toNat, last.toNat⟩

def CodeRange.only (c : Char) : CodeRange := between c c

end Text

/-- A class of characters. One that disregards case is written with folded characters. -/
structure CharClass where
  ranges : List Text.CodeRange
  anyCase : Bool := false
  deriving DecidableEq, Repr

def CharClass.takes (k : CharClass) (c : Char) : Bool :=
  k.ranges.any (·.covers (if k.anyCase then Text.foldCode c.toNat else c.toNat))

inductive Pattern
  /-- Matches no text. -/
  | never
  /-- Matches the empty text. -/
  | empty
  | one (k : CharClass)
  | seq (p q : Pattern)
  | either (p q : Pattern)
  /-- Any number of times. -/
  | many (p : Pattern)
  deriving DecidableEq, Repr

namespace Pattern

def oneOf (ranges : List Text.CodeRange) : Pattern := one { ranges }

def char (c : Char) : Pattern := oneOf [.only c]

def oneOrMore (p : Pattern) : Pattern := seq p (many p)

def optional (p : Pattern) : Pattern := either p empty

def times : Nat → Pattern → Pattern
  | 0, _ => empty
  | n + 1, p => seq p (times n p)

def anyCase : Pattern → Pattern
  | never => never
  | empty => empty
  | one k => one { k with anyCase := true }
  | seq p q => seq p.anyCase q.anyCase
  | either p q => either p.anyCase q.anyCase
  | many p => many p.anyCase

def acceptsEmpty : Pattern → Bool
  | never | one _ => false
  | empty | many _ => true
  | seq p q => p.acceptsEmpty && q.acceptsEmpty
  | either p q => p.acceptsEmpty || q.acceptsEmpty

/-- One pattern after the other. Derivatives stay small by leaving out what matches nothing. -/
def andThen : Pattern → Pattern → Pattern
  | never, _ => never
  | empty, q => q
  | p, q => seq p q

def orElse : Pattern → Pattern → Pattern
  | never, q => q
  | p, never => p
  | p, q => either p q

/-- The derivative: what has to follow the character for the pattern to match. -/
def after (c : Char) : Pattern → Pattern
  | never | empty => never
  | one k => if k.takes c then empty else never
  | seq p q => ((p.after c).andThen q).orElse (if p.acceptsEmpty then q.after c else never)
  | either p q => (p.after c).orElse (q.after c)
  | many p => (p.after c).andThen (many p)

def accepts (p : Pattern) (t : Text) : Bool := (t.foldl (fun q c => q.after c) p).acceptsEmpty

end Pattern

end GatewayConfig
