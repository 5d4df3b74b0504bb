import Std.Data.HashMap
import WireModel.Output.Token

/-!
# Patterns of tokens

A pattern says which runs of tokens belong together. A choice takes the first of its patterns that
matches, and a repetition takes as many as it can; neither is reconsidered later. So from each
position a pattern matches one run or none, and what a rule matches from a position is kept, so
that the work grows with the number of tokens only.
-/

namespace WireModel.Output

/-- The kinds of tokens that patterns tell apart. -/
inductive TokenKind where
  | name
  | number
  /-- A number that is imaginary, or one that is not. -/
  | numberThatIs (imaginary : Bool)
  | text
  | newline
  | indent
  | dedent
  /-- A symbol, a reserved word or a name that is spelled like this. -/
  | spelled (text : String)

def TokenKind.has : TokenKind → Token → Bool
  | .name, .name _ => true
  | .number, .number _ => true
  | .numberThatIs expected, .number imaginary => imaginary == expected
  | .text, .text _ => true
  | .newline, .newline => true
  | .indent, .indent => true
  | .dedent, .dedent => true
  | .spelled expected, .name given | .spelled expected, .word given
  | .spelled expected, .symbol given => given == expected
  | _, _ => false

/-- A pattern over rules, which are patterns with names. -/
inductive Pattern (ρ : Type) where
  | nothing
  | token (kind : TokenKind)
  | rule (r : ρ)
  | both (first second : Pattern ρ)
  | either (first second : Pattern ρ)
  /-- As many as possible, one after another. -/
  | many (p : Pattern ρ)
  /-- Looks ahead and takes nothing. -/
  | ahead (p : Pattern ρ)
  /-- Looks ahead for what must not follow. -/
  | notAhead (p : Pattern ρ)

namespace Pattern

variable {ρ : Type}

instance : Coe String (Pattern ρ) := ⟨fun text => .token (.spelled text)⟩
instance : Coe TokenKind (Pattern ρ) := ⟨.token⟩
instance : Coe ρ (Pattern ρ) := ⟨.rule⟩

/-- Patterns one after another. -/
def all : List (Pattern ρ) → Pattern ρ
  | [] => .nothing
  | [p] => p
  | p :: rest => .both p (all rest)

/-- What matches nowhere. -/
def never : Pattern ρ := .notAhead .nothing

/-- The first of some patterns that matches. -/
def firstOf : List (Pattern ρ) → Pattern ρ
  | [] => never
  | [p] => p
  | p :: rest => .either p (firstOf rest)

def maybe (ps : List (Pattern ρ)) : Pattern ρ := .either (all ps) .nothing

/-- One or more. -/
def several (p : Pattern ρ) : Pattern ρ := .both p (.many p)

/-- One or more with a separator between them. -/
def separated (separator p : Pattern ρ) : Pattern ρ := .both p (.many (.both separator p))

/-- One or more with commas between them. -/
def listed (p : Pattern ρ) : Pattern ρ := separated "," p

/-- As `listed`, and one more comma may follow. -/
def listedFreely (p : Pattern ρ) : Pattern ρ := .both (listed p) (maybe [","])

end Pattern

/-! ## Matching -/

section Matching

variable {ρ : Type} [BEq ρ] [Hashable ρ]

/-- What the rules match from some positions: the position behind the run, if there is one. -/
abbrev Matches (ρ : Type) [BEq ρ] [Hashable ρ] := Std.HashMap (ρ × Nat) (Option Nat)

/-- The end of a match from a position. -/
abbrev Matching (ρ : Type) [BEq ρ] [Hashable ρ] := Nat → StateM (Matches ρ) (Option Nat)

/-- Matches again and again, until there is no match or one of nothing. -/
def repeated (step : Matching ρ) : Nat → Matching ρ
  | 0, i => return some i
  | count + 1, i => do
    match ← step i with
    | none => return some i
    | some j => if j ≤ i then return some i else repeated step count j

/-- Matches a pattern, given how to match rules. -/
def Pattern.matching (tokens : Array Token) (ofRule : ρ → Matching ρ) : Pattern ρ → Matching ρ
  | .nothing, i => return some i
  | .token kind, i => return if tokens[i]?.any kind.has then some (i + 1) else none
  | .rule r, i => ofRule r i
  | .both first second, i => do
    match ← first.matching tokens ofRule i with
    | none => return none
    | some j => second.matching tokens ofRule j
  | .either first second, i => do
    match ← first.matching tokens ofRule i with
    | none => second.matching tokens ofRule i
    | some j => return some j
  | .many p, i => repeated (p.matching tokens ofRule) (tokens.size - i) i
  | .ahead p, i => return (← p.matching tokens ofRule i).map fun _ => i
  | .notAhead p, i => return if (← p.matching tokens ofRule i).isSome then none else some i

/-- Matches a rule, unless it is known already what it matches. Rules within rules use up the
fuel. -/
def ruleMatching (pattern : ρ → Pattern ρ) (tokens : Array Token) : Nat → ρ → Matching ρ
  | 0, _, _ => return none
  | fuel + 1, r, i => do
    match (← get)[(r, i)]? with
    | some known => return known
    | none =>
      let found ← (pattern r).matching tokens (ruleMatching pattern tokens fuel) i
      modify fun known => known.insert (r, i) found
      return found

/-- The end of what a rule matches from the first token on. From one token to the next no rule is
entered twice, so a product of their numbers bounds how deep rules are in rules. -/
def matchEnd? (pattern : ρ → Pattern ρ) (rules : Nat) (start : ρ) (tokens : Array Token) :
    Option Nat :=
  ((ruleMatching pattern tokens ((rules + 1) * (tokens.size + 1)) start 0).run ∅).1

end Matching

end WireModel.Output
