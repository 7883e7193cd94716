import GrammarKit.Description
import GrammarKit.Error
import GrammarKit.Matcher
import GrammarKit.Pattern.Program
import GrammarKit.Text.Blank

/-!
# Token matchers

A token matcher recognises a kind of token by a pattern. The pattern is written for the middle of a
text; it is compiled inside a group behind a condition on the start of the text, so that it matches
at the head of what remains. A token matcher exists only if its kind is not blank and its pattern
compiles.
-/

namespace GrammarKit

open Pattern

/-- A kind of token with its pattern and the regular expression of the anchored pattern. -/
structure TokenMatcher where
  kind : String
  pattern : String
  regex : Regex
  kind_ne_blank : Text.isBlank kind = false
  compile_eq : compile (anchored pattern.toList) = .ok regex

namespace TokenMatcher

/-- Defines a kind of token. The kind is looked at before the pattern. -/
def define (kind pattern : String) : Except DefinitionError TokenMatcher :=
  if hkind : Text.isBlank kind = false then
    match h : compile (anchored pattern.toList) with
    | .ok regex => .ok ⟨kind, pattern, regex, hkind, h⟩
    | .error cause => .error (.invalidPattern kind cause)
  else .error .emptyName

/-- The definition in writing. -/
def describe (m : TokenMatcher) : TokenDescription := ⟨m.kind, m.pattern⟩

/-- Defines the kind of token that is described. -/
def ofDescription (d : TokenDescription) : Except DefinitionError TokenMatcher :=
  define d.kind d.pattern

/-- The leftmost match in a text, and what its captures hold. -/
def find (m : TokenMatcher) (text : List Char) : Option PrefixMatch :=
  let chars := text.toArray
  (m.regex.search chars).map fun found =>
    ⟨slice chars found.start found.stop, found.texts chars m.regex.lastCapture⟩

/-- The matcher for a lexer. -/
def toMatcher (m : TokenMatcher) : Matcher := ⟨m.kind, m.find⟩

/-- Kind and pattern make a token matcher. -/
theorem ext_of_kind_pattern {m n : TokenMatcher} (hkind : m.kind = n.kind)
    (hpattern : m.pattern = n.pattern) : m = n := by
  obtain ⟨k, p, r, hk, hr⟩ := m
  obtain ⟨k', p', r', hk', hr'⟩ := n
  simp only at hkind hpattern
  subst hkind hpattern
  rw [hr] at hr'
  cases hr'
  rfl

instance : DecidableEq TokenMatcher := fun m n =>
  if h : m.kind = n.kind ∧ m.pattern = n.pattern then
    .isTrue (ext_of_kind_pattern h.1 h.2)
  else .isFalse fun e => h (e ▸ ⟨rfl, rfl⟩)

/-- A token matcher is defined again by its own description. -/
theorem ofDescription_describe (m : TokenMatcher) : ofDescription m.describe = .ok m := by
  change define m.kind m.pattern = .ok m
  unfold define
  rw [dif_pos m.kind_ne_blank]
  split
  · next regex h =>
    exact congrArg Except.ok (ext_of_kind_pattern rfl rfl)
  · next cause h =>
    rw [m.compile_eq] at h
    cases h

/-- A kind that is not blank and a pattern that compiles make a token matcher. -/
theorem exists_define (kind pattern : String) (hkind : Text.isBlank kind = false)
    (hpattern : (compile (anchored pattern.toList)).isOk = true) :
    ∃ m, define kind pattern = .ok m ∧ m.kind = kind ∧ m.pattern = pattern := by
  cases h : compile (anchored pattern.toList) with
  | error cause => rw [h] at hpattern; cases hpattern
  | ok regex =>
    exact ⟨⟨kind, pattern, regex, hkind, h⟩, ofDescription_describe ⟨kind, pattern, regex, hkind, h⟩,
      rfl, rfl⟩

end TokenMatcher

end GrammarKit
