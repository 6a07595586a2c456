import PatternLoom.Builder.Basic
import PatternLoom.Pattern.CharClass
import PatternLoom.Text.Escape

/-!
# Compositions

Builder programs with a structure: items one after the other, each of them a run of characters or an
atom that may be quantified. An atom can capture a composition of its own. The bare pattern of a
composition is the concatenation of the texts of its items.
-/

namespace PatternLoom

set_option autoImplicit false

def Token.characters? : Token → Option CharClass
  | .digit => some .digit
  | .notDigit => some (.compl .digit)
  | .whitespace => some .blank
  | .notWhitespace => some (.compl .blank)
  | .char => some .word
  | .notChar => some (.compl .word)
  | .hexDigit => some (.unions [.range '0' '9', .range 'A' 'F', .range 'a' 'f'])
  | .octalDigit => some (.range '0' '7')
  | .newLine => some (.one '\n')
  | .carriageReturn => some (.one '\r')
  | .tab => some (.one '\t')
  | .verticalTab => some (.one '\x0b')
  | .formFeed => some (.one '\x0c')
  | .space => some (.one ' ')
  | .any => some (.compl (.one '\n'))
  | .oneOrMore | .zeroOrMore | .anyWord | .notWord | .anyWords | .startCapture | .endCapture => none

/-- Repetition counts lie below this bound. -/
def countBound : Nat := Nat.pow 2 32

inductive Quantifier where
  | oneOrMore
  | zeroOrMore
  | exactly (n : Nat) (h : n < countBound)
  | between (lo hi : Nat) (hle : lo ≤ hi) (h : hi < countBound)

/-- A fragment that a quantifier does not follow. -/
inductive Run where
  | symbols (t : Text)
  | anyWord
  | notWord
  | anyWords

mutual

/-- A single fragment that a quantifier may follow. -/
inductive Atom where
  | token (k : Token) (s : CharClass) (h : k.characters? = some s)
  | symbol (c : Char)
  /-- One of several texts, as a word or as words. -/
  | oneOf (plural : Bool) (first : Text) (others : List Text)
  /-- A captured composition, given by a callback or by a builder. -/
  | captureWith (built : Bool) (body : Composition)
  | captured (a : Atom)
  | capturedRun (x : Run)

inductive Item where
  | run (x : Run)
  | once (a : Atom)
  | repeated (a : Atom) (q : Quantifier)

inductive Composition where
  | nil
  | cons (i : Item) (rest : Composition)

end

namespace Quantifier

def step : Quantifier → Step
  | .oneOrMore => .token .oneOrMore
  | .zeroOrMore => .token .zeroOrMore
  | .exactly n _ => .count [n]
  | .between lo hi _ _ => .count [lo, hi]

/-- The first character of a quantifier. -/
def mark : Quantifier → Char
  | .oneOrMore => '+'
  | .zeroOrMore => '*'
  | .exactly .. | .between .. => '\x7b'

/-- What follows the first character of a quantifier. -/
def bounds : Quantifier → Text
  | .oneOrMore | .zeroOrMore => []
  | .exactly n _ => Text.ofNat n ++ ['\x7d']
  | .between lo hi _ _ => Text.ofNat lo ++ ',' :: (Text.ofNat hi ++ ['\x7d'])

def lo : Quantifier → Nat
  | .oneOrMore => 1
  | .zeroOrMore => 0
  | .exactly n _ => n
  | .between lo _ _ _ => lo

def hi : Quantifier → Option Nat
  | .oneOrMore | .zeroOrMore => none
  | .exactly n _ => some n
  | .between _ hi _ _ => some hi

def IsCount : Quantifier → Prop
  | .oneOrMore | .zeroOrMore => False
  | .exactly .. | .between .. => True

end Quantifier

namespace Run

def step : Run → Step
  | .symbols t => .symbols t
  | .anyWord => .word .any
  | .notWord => .token .notWord
  | .anyWords => .words .any

def text : Run → Text
  | .symbols t => Text.escapeLiteral t
  | .anyWord => Token.anyWord.text
  | .notWord => Token.notWord.text
  | .anyWords => Token.anyWords.text

end Run

/-- A fragment as the body of a capture group. -/
def captureText (body : Text) : Text := ['('] ++ (body ++ [')'])

mutual

def Atom.steps : Atom → List Step
  | .token k _ _ => [.token k]
  | .symbol c => [.symbols [c]]
  | .oneOf false first others => [.word (.oneOf ((first :: others).map Text.escapeLiteral))]
  | .oneOf true first others => [.words (.oneOf ((first :: others).map Text.escapeLiteral))]
  | .captureWith false body => [.captureWith (.callback body.steps none)]
  | .captureWith true body => [.captureWith (.built body.steps)]
  | .captured a => a.steps ++ [.capture]
  | .capturedRun x => [x.step, .capture]

def Item.steps : Item → List Step
  | .run x => [x.step]
  | .once a => a.steps
  | .repeated a q => a.steps ++ [q.step]

def Composition.steps : Composition → List Step
  | .nil => []
  | .cons i rest => i.steps ++ rest.steps

end

mutual

def Atom.text : Atom → Text
  | .token k _ _ => k.text
  | .symbol c => Text.escapeLiteral [c]
  | .oneOf _ first others =>
    captureText (Text.joinWith ['|'] ((first :: others).map Text.escapeLiteral))
  | .captureWith _ body => captureText body.text
  | .captured a => captureText a.text
  | .capturedRun x => captureText x.text

def Item.text : Item → Text
  | .run x => x.text
  | .once a => a.text
  | .repeated a q => a.text ++ q.mark :: q.bounds

def Composition.text : Composition → Text
  | .nil => []
  | .cons i rest => i.text ++ rest.text

end

mutual

def Atom.groups : Atom → Nat
  | .token .. | .symbol _ => 0
  | .oneOf .. | .capturedRun _ => 1
  | .captureWith _ body => 1 + body.groups
  | .captured a => 1 + a.groups

def Item.groups : Item → Nat
  | .run _ => 0
  | .once a | .repeated a _ => a.groups

def Composition.groups : Composition → Nat
  | .nil => 0
  | .cons i rest => i.groups + rest.groups

end

mutual

def Atom.depth : Atom → Nat
  | .token .. | .symbol _ => 0
  | .oneOf .. | .capturedRun _ => 1
  | .captureWith _ body => 1 + body.depth
  | .captured a => 1 + a.depth

def Item.depth : Item → Nat
  | .run _ => 0
  | .once a | .repeated a _ => a.depth

def Composition.depth : Composition → Nat
  | .nil => 0
  | .cons i rest => max i.depth rest.depth

end

theorem runProgram_append (b : Builder) (p q : List Step) :
    (runProgram b (p ++ q)).1 = (runProgram (runProgram b p).1 q).1 := by
  induction p generalizing b with
  | nil => rfl
  | cons s p ih => exact ih (s.run b).builder

theorem runProgram_singleton (b : Builder) (s : Step) :
    (runProgram b [s]).1 = (s.run b).builder := rfl

theorem builder_run_capture (b : Builder) (fragment : Text) :
    (Step.capture.run (b.push fragment)).builder = b.push (captureText fragment) := by
  simp [Step.run, Builder.modifyLast?, Builder.push, captureText]

theorem Run.builder_run (x : Run) (b : Builder) : (x.step.run b).builder = b.push x.text := by
  cases x <;> rfl

theorem Quantifier.builder_run (q : Quantifier) (b : Builder) :
    (q.step.run b).builder = b.push (q.mark :: q.bounds) := by
  cases q with
  | oneOrMore | zeroOrMore => rfl
  | exactly n => simp [step, Step.run, mark, bounds, Text.joinWith]
  | between lo hi => simp [step, Step.run, mark, bounds, Text.joinWith]

mutual

/-- The steps of an atom append a single fragment. -/
theorem Atom.builder_run (a : Atom) (b : Builder) : (runProgram b a.steps).1 = b.push a.text := by
  cases a with
  | token | symbol => rfl
  | oneOf plural first others =>
    cases plural <;> exact congrArg b.push (List.append_assoc _ _ _)
  | captureWith built body =>
    have hbody := body.bare_run .new
    rw [Builder.bare_new, List.nil_append] at hbody
    have htext : ['('] ++ (runProgram .new body.steps).1.bare ++ [')'] = captureText body.text := by
      rw [hbody, captureText, List.append_assoc]
    cases built <;> exact congrArg b.push htext
  | captured a =>
    rw [Atom.steps, runProgram_append, a.builder_run b, runProgram_singleton, builder_run_capture,
      Atom.text]
  | capturedRun x =>
    have h : (runProgram b [x.step]).1 = b.push x.text := x.builder_run b
    rw [Atom.steps, ← List.singleton_append, runProgram_append, h, runProgram_singleton,
      builder_run_capture, Atom.text]

theorem Item.bare_run (i : Item) (b : Builder) :
    (runProgram b i.steps).1.bare = b.bare ++ i.text := by
  cases i with
  | run x => rw [Item.steps, runProgram_singleton, x.builder_run, Builder.bare_push, Item.text]
  | once a => rw [Item.steps, a.builder_run, Builder.bare_push, Item.text]
  | repeated a q =>
    rw [Item.steps, runProgram_append, a.builder_run, runProgram_singleton, q.builder_run,
      Builder.bare_push, Builder.bare_push, List.append_assoc, Item.text]

/-- The steps of a composition append its text. -/
theorem Composition.bare_run (p : Composition) (b : Builder) :
    (runProgram b p.steps).1.bare = b.bare ++ p.text := by
  cases p with
  | nil => exact (List.append_nil _).symm
  | cons i rest =>
    rw [Composition.steps, runProgram_append, rest.bare_run, i.bare_run, List.append_assoc,
      Composition.text]

end

end PatternLoom
