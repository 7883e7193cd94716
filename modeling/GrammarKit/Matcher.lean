import GrammarKit.Text.ByteLength

/-!
# Matchers

A matcher recognises one kind of token at the head of a text. It sees the text from its place on and
nothing before it. An honest matcher answers with a text that really comes first; all that a lexer
promises rests on this.
-/

namespace GrammarKit

/-- What a matcher finds at the head of a text: the text, and the whole match followed by the
captures. -/
structure PrefixMatch where
  text : String
  captures : List (Option String)
  deriving Repr, DecidableEq

namespace PrefixMatch

/-- The number of bytes of the text found. -/
def length (m : PrefixMatch) : Nat := Text.byteLength m.text.toList

/-- Whether nothing was taken. -/
def isEmpty (m : PrefixMatch) : Bool := m.text.isEmpty

theorem length_pos {m : PrefixMatch} (h : m.isEmpty = false) : 0 < m.length := by
  have hne : m.text.toList ≠ [] := by
    intro hnil
    have : m.text = "" := by rw [← String.ofList_toList (s := m.text), hnil]
    simp [isEmpty, this] at h
  have := mt Text.byteLength_eq_zero.1 hne
  simp only [length]
  omega

end PrefixMatch

/-- Recognises one kind of token at the head of a text. -/
structure Matcher where
  kind : String
  find : List Char → Option PrefixMatch

/-- An honest matcher finds only what stands at the head of the text. -/
def Matcher.Honest (m : Matcher) : Prop :=
  ∀ {text : List Char} {found : PrefixMatch},
    m.find text = some found → found.text.toList <+: text

namespace Matcher

/-- Recognises one fixed text, and reports no captures. -/
def literal (kind word : String) : Matcher where
  kind := kind
  find text := if word.toList.isPrefixOf text then some ⟨word, []⟩ else none

/-- Recognises any text of `n` characters, each of them a capture. -/
def characters (kind : String) (n : Nat) : Matcher where
  kind := kind
  find text :=
    if n ≤ text.length then
      some ⟨String.ofList (text.take n), (text.take n).map fun c => some (String.singleton c)⟩
    else none

theorem honest_literal (kind word : String) : (literal kind word).Honest := by
  intro text found h
  simp only [literal] at h
  split at h
  · next hpre => cases h; exact List.isPrefixOf_iff_prefix.1 hpre
  · cases h

theorem honest_characters (kind : String) (n : Nat) : (characters kind n).Honest := by
  intro text found h
  simp only [characters] at h
  split at h
  · cases h; simpa using List.take_prefix n text
  · cases h

end Matcher

end GrammarKit
