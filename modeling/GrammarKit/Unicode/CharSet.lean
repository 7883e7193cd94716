/-!
# Sets of characters

A set of characters is held as ranges of code points, in increasing order and with a gap between
any two of them. The set operations work on whole ranges, so that large properties stay cheap.
Surrogates are code points like any other here: no character has one.
-/

namespace GrammarKit.Unicode

/-- The code points from `lo` to `hi`, both ends included. -/
structure CodeRange where
  lo : Nat
  hi : Nat
  deriving Repr, DecidableEq

namespace CodeRange

/-- Whether the code point `n` lies in the range. -/
def contains (r : CodeRange) (n : Nat) : Bool :=
  r.lo ≤ n && n ≤ r.hi

end CodeRange

/-- A set of characters, as ordered ranges of code points with gaps between them. -/
structure CharSet where
  ranges : List CodeRange
  deriving Repr, DecidableEq

namespace CharSet

/-- The last code point. -/
def lastCode : Nat := 0x10FFFF

/-- The set without members. -/
def empty : CharSet := ⟨[]⟩

/-- All characters. -/
def all : CharSet := ⟨[⟨0, lastCode⟩]⟩

/-- The characters from `lo` to `hi`. -/
def range (lo hi : Nat) : CharSet := if lo ≤ hi then ⟨[⟨lo, hi⟩]⟩ else empty

/-- The set with the one member `c`. -/
def singleton (c : Char) : CharSet := range c.toNat c.toNat

/-- The 128 characters of ASCII. -/
def ascii : CharSet := range 0 0x7F

/-- Whether the code point `n` belongs to the set. -/
def containsCode (s : CharSet) (n : Nat) : Bool :=
  s.ranges.any (·.contains n)

/-- Whether the character `c` belongs to the set. -/
def contains (s : CharSet) (c : Char) : Bool :=
  s.containsCode c.toNat

/-- Ordered ranges from ranges in any order. -/
def ofRanges (rs : List CodeRange) : CharSet :=
  ⟨((rs.mergeSort fun a b => a.lo ≤ b.lo).foldl joinLast []).reverse⟩
where
  /-- Adds a range behind ordered ranges, the latest first, that start no later. -/
  joinLast : List CodeRange → CodeRange → List CodeRange
    | [], r => [r]
    | l :: rest, r => if r.lo ≤ l.hi + 1 then ⟨l.lo, max l.hi r.hi⟩ :: rest else r :: l :: rest

/-- The set of the code points in a list. -/
def ofCodes (ns : List Nat) : CharSet :=
  ofRanges (ns.map fun n => ⟨n, n⟩)

/-- The members of either set. -/
def union (s t : CharSet) : CharSet :=
  if s.ranges.isEmpty then t
  else if t.ranges.isEmpty then s
  else ofRanges (s.ranges ++ t.ranges)

/-- The members of at least one of the sets. -/
def unions (ss : List CharSet) : CharSet :=
  ofRanges (ss.flatMap ranges)

/-- The gaps between ordered ranges, from the code point `start` on. -/
def gaps (start : Nat) : List CodeRange → List CodeRange
  | [] => if start ≤ lastCode then [⟨start, lastCode⟩] else []
  | r :: rest =>
    if start < r.lo then ⟨start, r.lo - 1⟩ :: gaps (r.hi + 1) rest else gaps (r.hi + 1) rest

/-- The characters outside the set. -/
def compl (s : CharSet) : CharSet :=
  ⟨gaps 0 s.ranges⟩

/-- The members of both sets. -/
def inter (s t : CharSet) : CharSet :=
  (s.compl.union t.compl).compl

/-- The members of `s` outside `t`. -/
def diff (s t : CharSet) : CharSet :=
  s.inter t.compl

/-- The members of exactly one of the sets. -/
def symmDiff (s t : CharSet) : CharSet :=
  (s.union t).diff (s.inter t)

/-- Whether the set holds ASCII characters alone. -/
def isAscii (s : CharSet) : Bool :=
  s.ranges.all (·.hi ≤ 0x7F)

/-- The value of a hexadecimal digit; other characters count nothing. -/
def hexValue (c : Char) : Nat :=
  let n := c.toNat
  if 0x30 ≤ n ∧ n ≤ 0x39 then n - 0x30
  else if 0x41 ≤ n ∧ n ≤ 0x46 then n - 0x37
  else if 0x61 ≤ n ∧ n ≤ 0x66 then n - 0x57
  else 0

/-- Reads ranges written as `lo-hi` or as one code point, in hexadecimal, with blanks between. The
arguments are the ranges so far, the latest first, the low end if one is complete, and the number
that is being read. -/
def readRanges (done : List CodeRange) (lo : Option Nat) (n : Nat) : List Char → List CodeRange
  | [] => ((⟨lo.getD n, n⟩ : CodeRange) :: done).reverse
  | ' ' :: cs => readRanges (⟨lo.getD n, n⟩ :: done) none 0 cs
  | '-' :: cs => readRanges done (some n) 0 cs
  | c :: cs => readRanges done lo (16 * n + hexValue c) cs

/-- The set that a table line writes down: ordered ranges as `lo-hi`, in hexadecimal. -/
def ofTable (line : String) : CharSet :=
  match line.toList with
  | [] => empty
  | cs => ⟨readRanges [] none 0 cs⟩

theorem contains_singleton (c d : Char) : (singleton c).contains d = (c == d) := by
  have hiff : c.toNat = d.toNat ↔ c = d := ⟨fun h => Char.toNat_inj.1 h, fun h => h ▸ rfl⟩
  simp only [singleton, range, Nat.le_refl, if_true, contains, containsCode, List.any_cons,
    List.any_nil, Bool.or_false, CodeRange.contains]
  by_cases h : c = d
  · subst h; simp
  · have : c.toNat ≠ d.toNat := fun e => h (hiff.1 e)
    have hb : (c == d) = false := by simp [h]
    rw [hb, Bool.and_eq_false_iff]
    simp only [decide_eq_false_iff_not]
    omega

end CharSet

end GrammarKit.Unicode
