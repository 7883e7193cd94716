import GrammarKit.Proofs.Text.Reading
import GrammarKit.Toml.StringReader

/-!
# TOML strings are read back

Whatever characters a text holds, the form that is chosen for it can hold it, and reading that form
gives the text again. The basic forms hold every text, because they escape what must not stand bare;
the literal forms hold only what their choice has made sure of.

Quotes in a row are the hard part of the forms over several lines: the reader takes a whole run of
them at once and tells by its length whether the text ends there. So the induction over such a text
carries the quotes that have been written and not yet been read.
-/

namespace GrammarKit.Toml

namespace TomlReader

open Reader

theorem run_char (c : Char) (cs : List Char) : char.run (c :: cs) = .ok (c, cs) := rfl

/-- A written hexadecimal digit has its value. -/
theorem hexValue?_hexDigit {n : Nat} (h : n < 16) : hexValue? (hexDigit n) = some n := by
  have hall : ∀ n < 16, hexValue? (hexDigit n) = some n := by decide
  exact hall n h

/-- A digit adds its value to a number. -/
theorem run_hexNumber {count d : Nat} {c : Char} (soFar : Nat) (h : hexValue? c = some d)
    (cs : List Char) :
    (hexNumber (count + 1) soFar).run (c :: cs) = (hexNumber count (16 * soFar + d)).run cs := by
  rw [hexNumber, run_bind_ok (run_char c cs), h]

/-- The number of a character in four digits, of which the first two are zero. -/
theorem run_numbered {n : Nat} (h : n < 256) (rest : List Char) :
    (numbered 4).run ('0' :: '0' :: hexDigit (n / 16) :: hexDigit (n % 16) :: rest) =
      .ok (Char.ofNat n, rest) := by
  have hnumber : (hexNumber 4 0).run ('0' :: '0' :: hexDigit (n / 16) :: hexDigit (n % 16) :: rest) =
      .ok (n, rest) := by
    rw [run_hexNumber 0 (d := 0) rfl, run_hexNumber _ (d := 0) rfl,
      run_hexNumber _ (hexValue?_hexDigit (n := n / 16) (by omega)),
      run_hexNumber _ (hexValue?_hexDigit (n := n % 16) (by omega)), hexNumber, run_pure]
    congr 2
    omega
  have hvalid : n.isValidChar := Or.inl (by omega)
  rw [numbered, run_bind_ok hnumber, if_pos hvalid, run_pure]

/-- How a character may be written in a basic string: with a backslash and signs that stand for it,
or bare, unless it is a backslash, a line end or a control character. -/
inductive Written (c : Char) : List Char → Prop where
  | escaped {sign : Char} {signs : List Char} (hspace : isSpace sign = false) (hfeed : sign ≠ '\n')
      (hreturn : sign ≠ '\r') (hread : ∀ rest, (escape sign).run (signs ++ rest) = .ok (c, rest)) :
      Written c ('\\' :: sign :: signs)
  | bare (hbackslash : c ≠ '\\') (hquote : c ≠ '"') (hfeed : c ≠ '\n') (hcontrol : isControl c = false) :
      Written c [c]

/-- A letter behind a backslash that stands for one character. -/
theorem Written.letter {c sign : Char} (hspace : isSpace sign = false) (hfeed : sign ≠ '\n')
    (hreturn : sign ≠ '\r') (hread : escape sign = pure c) : Written c ['\\', sign] :=
  .escaped hspace hfeed hreturn fun rest => by rw [hread, run_pure, List.nil_append]

/-- Quotes are written behind a backslash. -/
theorem written_quote : Written '"' ['\\', '"'] := .letter rfl (by decide) (by decide) rfl

/-- Every other character is written as its escape. -/
theorem written_escapeChar {c : Char} (hquote : c ≠ '"') : Written c (escapeChar c) := by
  have hnumber {n : Nat} (h : c.toNat = n) : c = Char.ofNat n := by rw [← h, Char.ofNat_toNat]
  unfold escapeChar
  split
  · next h => subst h; exact .letter rfl (by decide) (by decide) rfl
  split
  · next h => rw [hnumber h]; exact .letter rfl (by decide) (by decide) rfl
  split
  · next h => subst h; exact .letter rfl (by decide) (by decide) rfl
  split
  · next h => subst h; exact .letter rfl (by decide) (by decide) rfl
  split
  · next h => rw [hnumber h]; exact .letter rfl (by decide) (by decide) rfl
  split
  · next h => subst h; exact .letter rfl (by decide) (by decide) rfl
  split
  · next hcontrol =>
    have hsmall : c.toNat < 256 := by
      simp only [isControl, Bool.or_eq_true, Bool.and_eq_true, decide_eq_true_eq, beq_iff_eq] at hcontrol
      omega
    refine .escaped rfl (by decide) (by decide) fun rest => ?_
    have hread := run_numbered hsmall rest
    rw [Char.ofNat_toNat] at hread
    exact hread
  · next hbackslash _ _ hfeed _ _ hcontrol =>
    exact .bare hbackslash hquote hfeed (Bool.eq_false_iff.2 hcontrol)

/-- What is written for a character begins with a backslash or with the character itself, which is
then neither a line feed nor a control character. -/
theorem Written.stops {c : Char} {text : List Char} (h : Written c text) {p : Char → Bool}
    (hbackslash : p '\\' = false) (hself : c ≠ '\n' → isControl c = false → p c = false)
    (rest : List Char) : Stops p (text ++ rest) := by
  cases h with
  | escaped => exact stops_cons _ hbackslash
  | bare _ _ hfeed hcontrol => exact stops_cons _ (hself hfeed hcontrol)

/-- What is written for a character other than a quote does not begin with one. -/
theorem stops_escapeChar {c : Char} (hquote : c ≠ '"') (rest : List Char) :
    Stops (· == '"') (escapeChar c ++ rest) := by
  refine (written_escapeChar hquote).stops (by decide) (fun _ _ => ?_) rest
  exact beq_eq_false_iff_ne.2 hquote

/-- A written character is read within a basic string on one line. -/
theorem run_loop_written {c : Char} {text : List Char} (h : Written c text) (soFar rest : List Char) :
    (loop basicStep atEnd soFar).run (text ++ rest) = (loop basicStep atEnd (c :: soFar)).run rest := by
  cases h with
  | escaped _ _ _ hread =>
    rw [List.cons_append, List.cons_append]
    apply run_loop_next
    rw [basicStep, if_neg (by decide), if_pos rfl, run_bind_ok (run_char _ _),
      run_bind_ok (hread rest), run_pure]
  | bare hbackslash hquote hfeed hcontrol =>
    rw [List.singleton_append]
    apply run_loop_next
    rw [basicStep, if_neg hquote, if_neg hbackslash, if_neg (by simp [hfeed, hcontrol]), run_pure]

/-- The characters of a basic string are written one by one. -/
theorem basicBody_eq_flatMap (cs : List Char) :
    basicBody cs = cs.flatMap fun c => if c = '"' then ['\\', '"'] else escapeChar c := by
  induction cs with
  | nil => rfl
  | cons c cs ih => rw [basicBody, ih, List.flatMap_cons]

/-- The content of a basic string is read up to the closing quote. -/
theorem run_loop_basicBody (cs rest : List Char) :
    (loop basicStep atEnd []).run (basicBody cs ++ '"' :: rest) = .ok (String.ofList cs, rest) := by
  have hwritten (c : Char) : Written c (if c = '"' then ['\\', '"'] else escapeChar c) := by
    split
    · next h => rw [h]; exact written_quote
    · next h => exact written_escapeChar h
  rw [basicBody_eq_flatMap, run_loop_flatMap fun c _ => run_loop_written (hwritten c), List.append_nil]
  apply run_loop_done
  rw [basicStep, if_pos rfl, run_pure, List.reverse_reverse]

/-- The content of a literal string is read up to the closing quote, if it has no quotes, line ends
or control characters. -/
theorem run_loop_literalBody {cs : List Char}
    (hcs : ∀ c ∈ cs, c ≠ '\'' ∧ c ≠ '\n' ∧ isControl c = false) (rest : List Char) :
    (loop literalStep atEnd []).run (cs ++ '\'' :: rest) = .ok (String.ofList cs, rest) := by
  have hself : ∀ c ∈ cs, ∀ soFar rest, (loop literalStep atEnd soFar).run ([c] ++ rest) =
      (loop literalStep atEnd (c :: soFar)).run rest := by
    intro c hc soFar rest
    obtain ⟨hquote, hfeed, hcontrol⟩ := hcs c hc
    rw [List.singleton_append]
    apply run_loop_next
    rw [literalStep, if_neg hquote, if_neg (by simp [hfeed, hcontrol]), run_pure]
  have hcontent := run_loop_flatMap hself [] ('\'' :: rest)
  rw [List.flatMap_singleton', List.append_nil] at hcontent
  rw [hcontent]
  apply run_loop_done
  rw [literalStep, if_pos rfl, run_pure, List.reverse_reverse]

section Lines

variable {q : Char} {n : Nat} {rest : List Char}

/-- One quote or two within a text belong to it. -/
theorem run_quotes_inside (hn : n < 2) (soFar : List Char) (hrest : Stops (· == q) rest) :
    (quotes q soFar).run (List.replicate n q ++ rest) =
      .ok (.inl (List.replicate (n + 1) q ++ soFar), rest) := by
  have hrun : ∀ c ∈ List.replicate n q, (c == q) = true :=
    fun c hc => beq_iff_eq.2 (List.eq_of_mem_replicate hc)
  rw [quotes, run_bind_ok (run_takeWhile hrun hrest), List.length_replicate, if_pos hn, run_pure,
    List.replicate_succ, List.cons_append]

/-- Three quotes close a text, and up to two before them belong to it. -/
theorem run_quotes_end (hn : n ≤ 2) (soFar : List Char) (hrest : Stops (· == q) rest) :
    (quotes q soFar).run (List.replicate (n + 2) q ++ rest) =
      .ok (.inr (String.ofList (soFar.reverse ++ List.replicate n q)), rest) := by
  have hrun : ∀ c ∈ List.replicate (n + 2) q, (c == q) = true :=
    fun c hc => beq_iff_eq.2 (List.eq_of_mem_replicate hc)
  rw [quotes, run_bind_ok (run_takeWhile hrun hrest), List.length_replicate, if_neg (by omega),
    if_pos (by omega), run_pure, Nat.add_sub_cancel, List.reverse_append, List.reverse_replicate]

variable {step : Lines → Char → TomlReader (Lines ⊕ String)}

/-- Up to two quotes that end before other characters are added to the text. -/
theorem run_loop_quotes (hstep : ∀ text : Lines, step text q = text.quotes q) (hn : n ≤ 2)
    (soFar : List Char) (hrest : Stops (· == q) rest) :
    (loop step atEnd ⟨soFar, false⟩).run (List.replicate n q ++ rest) =
      (loop step atEnd ⟨List.replicate n q ++ soFar, false⟩).run rest := by
  cases n with
  | zero => rfl
  | succ n =>
    have hround : (step ⟨soFar, false⟩ q).run (List.replicate n q ++ rest) =
        .ok (.inl ⟨List.replicate (n + 1) q ++ soFar, false⟩, rest) := by
      rw [hstep, Lines.quotes, run_bind_ok (run_quotes_inside (by omega) soFar hrest)]
      rfl
    rw [List.replicate_succ, List.cons_append, run_loop_next hround, List.replicate_succ]

/-- Up to two quotes that end at the closing ones are added to the text, which is over. -/
theorem run_loop_close (hstep : ∀ text : Lines, step text q = text.quotes q) (hn : n ≤ 2)
    (soFar : List Char) (hrest : Stops (· == q) rest) :
    (loop step atEnd ⟨soFar, false⟩).run (List.replicate n q ++ ([q, q, q] ++ rest)) =
      .ok (String.ofList (soFar.reverse ++ List.replicate n q), rest) := by
  have hall : List.replicate n q ++ ([q, q, q] ++ rest) =
      q :: (List.replicate (n + 2) q ++ rest) := by
    have hthree : [q, q, q] = List.replicate 3 q := rfl
    rw [hthree, ← List.append_assoc, List.replicate_append_replicate, List.replicate_succ,
      List.cons_append]
  rw [hall]
  apply run_loop_done
  rw [hstep, Lines.quotes, run_bind_ok (run_quotes_end hn soFar hrest)]
  rfl

/-- A text adds one character to a text over several lines. -/
def Adds (step : Lines → Char → TomlReader (Lines ⊕ String)) (c : Char) (text : List Char) : Prop :=
  ∀ soFar rest, (loop step atEnd ⟨soFar, false⟩).run (text ++ rest) =
    (loop step atEnd ⟨c :: soFar, false⟩).run rest

/-- How the content of a text over several lines may be written, after `run` bare quotes: never do
three of them follow one another. -/
inductive WrittenLines (step : Lines → Char → TomlReader (Lines ⊕ String)) (q : Char) :
    Nat → List Char → List Char → Prop where
  | done {run : Nat} (hrun : run ≤ 2) : WrittenLines step q run [] []
  | quote {run : Nat} {cs text : List Char} (h : WrittenLines step q (run + 1) cs text) :
      WrittenLines step q run (q :: cs) (q :: text)
  | sign {run : Nat} {c : Char} {cs signs text : List Char} (hrun : run ≤ 2)
      (hstops : ∀ rest, Stops (· == q) (signs ++ rest)) (hadds : Adds step c signs)
      (h : WrittenLines step q 0 cs text) : WrittenLines step q run (c :: cs) (signs ++ text)

/-- The content of a text over several lines is read up to the closing quotes; `run` quotes have been
written before it and are still to be read. -/
theorem WrittenLines.run_loop (hstep : ∀ text : Lines, step text q = text.quotes q) {run : Nat}
    {cs text : List Char} (h : WrittenLines step q run cs text) (soFar : List Char)
    (hrest : Stops (· == q) rest) :
    (loop step atEnd ⟨soFar, false⟩).run (List.replicate run q ++ (text ++ ([q, q, q] ++ rest))) =
      .ok (String.ofList (soFar.reverse ++ (List.replicate run q ++ cs)), rest) := by
  induction h generalizing soFar with
  | done hrun =>
    rw [List.nil_append, List.append_nil]
    exact run_loop_close hstep hrun soFar hrest
  | quote h ih =>
    have hmore := ih soFar
    rw [List.replicate_succ', List.append_assoc, List.append_assoc, List.singleton_append,
      List.singleton_append] at hmore
    rw [List.cons_append, hmore]
  | @sign run c cs signs text hrun hstops hadds h ih =>
    have hbehind := ih (c :: (List.replicate run q ++ soFar))
    rw [List.replicate_zero, List.nil_append, List.nil_append] at hbehind
    rw [List.append_assoc, run_loop_quotes hstep hrun soFar (hstops _), hadds, hbehind]
    simp

/-- A carriage return is a control character. -/
theorem ne_return {c : Char} (hcontrol : isControl c = false) : c ≠ '\r' := by
  rintro rfl
  exact absurd hcontrol (by decide)

/-- A character that is no control character stands for itself in a text over several lines. -/
theorem run_plain {c : Char} (hcontrol : isControl c = false) (soFar cs : List Char) :
    (Lines.plain ⟨soFar, false⟩ c).run cs = .ok (.inl ⟨c :: soFar, false⟩, cs) := by
  rw [Lines.plain, if_neg (fun h => Bool.false_ne_true h.1), if_neg (ne_return hcontrol),
    if_neg (by rw [hcontrol]; exact Bool.false_ne_true), run_pure]

/-- A character that a step takes for itself is added. -/
theorem adds_self {c : Char} (hcontrol : isControl c = false)
    (hself : ∀ text : Lines, step text c = text.plain c) : Adds step c [c] := by
  intro soFar rest
  rw [List.singleton_append]
  apply run_loop_next
  rw [hself, run_plain hcontrol]

/-- A written character is read within a basic string over several lines. -/
theorem Written.adds {c : Char} {text : List Char} (h : Written c text) :
    Adds Lines.basicStep c text := by
  cases h with
  | @escaped sign signs hspace hfeed hreturn hread =>
    intro soFar rest
    have hblanks : (takeWhile isSpace : TomlReader (List Char)).run (sign :: (signs ++ rest)) =
        .ok ([], sign :: (signs ++ rest)) := run_takeWhile_nil (stops_cons _ hspace)
    rw [List.cons_append, List.cons_append]
    apply run_loop_next
    rw [Lines.basicStep, if_neg (by decide), if_pos rfl, Lines.escape, run_bind_ok hblanks,
      run_bind_ok (run_char _ _), if_neg hfeed, if_neg hreturn, if_pos List.isEmpty_nil,
      run_bind_ok (hread rest), run_pure]
  | bare hbackslash hquote _ hcontrol =>
    refine adds_self hcontrol fun text => ?_
    rw [Lines.basicStep, if_neg hquote, if_neg hbackslash]

/-- In a basic string over several lines every third quote in a row is escaped. -/
theorem writtenLines_multilineBody (cs : List Char) {run : Nat} (hrun : run ≤ 2) :
    WrittenLines Lines.basicStep '"' run cs (multilineBody run cs) := by
  induction cs generalizing run with
  | nil => exact .done hrun
  | cons c cs ih =>
    rw [multilineBody]
    by_cases hquote : c = '"'
    · subst hquote
      rw [if_pos rfl]
      split
      · exact .sign hrun (fun _ => stops_cons _ (by decide)) written_quote.adds (ih (Nat.zero_le 2))
      · exact .quote (ih (by omega))
    · rw [if_neg hquote]
      split
      · next hfeed =>
        subst hfeed
        have hself : Adds Lines.basicStep '\n' ['\n'] := adds_self (by decide) fun _ => rfl
        exact .sign hrun (fun _ => stops_cons _ (by decide)) hself (ih (Nat.zero_le 2))
      · exact .sign hrun (stops_escapeChar hquote) (written_escapeChar hquote).adds
          (ih (Nat.zero_le 2))

/-- A text without control characters and without three quotes in a row stands for itself in a
literal string over several lines. -/
theorem writtenLines_self {cs : List Char} (hcontrol : ∀ c ∈ cs, isControl c = false) {run : Nat}
    (hrun : longestRunFrom '\'' run cs ≤ 2) : WrittenLines Lines.literalStep '\'' run cs cs := by
  induction cs generalizing run with
  | nil => exact .done hrun
  | cons c cs ih =>
    have htail : ∀ d ∈ cs, isControl d = false := fun d hd => hcontrol d (List.mem_cons_of_mem c hd)
    rw [longestRunFrom] at hrun
    by_cases hquote : c = '\''
    · subst hquote
      rw [if_pos rfl] at hrun
      exact .quote (ih htail hrun)
    · rw [if_neg hquote] at hrun
      have hself : Adds Lines.literalStep c [c] :=
        adds_self (hcontrol c List.mem_cons_self) fun _ => if_neg hquote
      exact .sign (Nat.le_trans (Nat.le_max_left _ _) hrun)
        (fun rest => stops_of_ne rest hquote) hself
        (ih htail (Nat.le_trans (Nat.le_max_right _ _) hrun))

end Lines

/-- The characters that a line end may begin with. -/
def isLineEnd (c : Char) : Bool := c == '\n' || c == '\r'

/-- A text over several lines that begins on a line of its own begins behind that line end. -/
theorem run_firstLineEnd_feed (cs : List Char) : firstLineEnd.run ('\n' :: cs) = .ok ((), cs) := by
  have heat : (eat ['\n'] : TomlReader Bool).run ('\n' :: cs) = .ok (true, cs) := run_eat ['\n'] cs
  rw [firstLineEnd, run_bind_ok heat, if_pos rfl, run_pure]

/-- Nothing is passed over where no line end comes. -/
theorem run_firstLineEnd_of_stops {cs : List Char} (h : Stops isLineEnd cs) :
    firstLineEnd.run cs = .ok ((), cs) := by
  have hnone {c : Char} (hc : isLineEnd c = true) : cs.head? ≠ some c :=
    fun hcs => Bool.false_ne_true ((h c hcs).symm.trans hc)
  rw [firstLineEnd, run_bind_ok (run_eat_of_head_ne (hnone rfl)), if_neg Bool.false_ne_true,
    run_bind_ok (run_eat_of_head_ne (hnone rfl)), run_pure]

/-- A single quote opens a string on one line. -/
theorem run_string_line {q : Char} {cs rest : List Char} (hcs : Stops (· == q) cs)
    (hrest : Stops (· == q) rest) :
    (string q).run (cs ++ q :: rest) = (lineString q).run (cs ++ q :: rest) := by
  have hsingle : [q, q].isPrefixOf (cs ++ q :: rest) = false := by
    cases cs with
    | nil =>
      cases rest with
      | nil => simp [List.isPrefixOf]
      | cons c rest =>
        have hne : c ≠ q := beq_eq_false_iff_ne.1 (hrest c rfl)
        simp [List.isPrefixOf, hne.symm]
    | cons c cs =>
      have hne : c ≠ q := beq_eq_false_iff_ne.1 (hcs c rfl)
      simp [List.isPrefixOf, hne.symm]
  rw [string, run_bind_ok (run_eat_false hsingle), if_neg Bool.false_ne_true]

/-- What is between the quotes of a text over several lines is read from its first line on. -/
theorem run_string_lines (q : Char) {cs body rest : List Char}
    (hbody : '\n' ∉ cs → Stops isLineEnd (body ++ ([q, q, q] ++ rest))) :
    (string q).run ((wrapLines q cs body).tail ++ rest) =
      (loop (if q = '"' then Lines.basicStep else Lines.literalStep) atEnd {}).run
        (body ++ ([q, q, q] ++ rest)) := by
  have hopen : (wrapLines q cs body).tail ++ rest =
      [q, q] ++ ((if cs.contains '\n' then ['\n'] else []) ++ (body ++ ([q, q, q] ++ rest))) := by
    simp [wrapLines]
  have hfirst : firstLineEnd.run
      ((if cs.contains '\n' then ['\n'] else []) ++ (body ++ ([q, q, q] ++ rest))) =
        .ok ((), body ++ ([q, q, q] ++ rest)) := by
    split
    · exact run_firstLineEnd_feed _
    · next hfeed =>
      exact run_firstLineEnd_of_stops (hbody fun h => hfeed (List.contains_iff_mem.2 h))
  rw [hopen, string, run_bind_ok (run_eat _ _), if_pos rfl, linesString, run_bind_ok hfirst]

/-- The content of a basic string does not begin with a quote. -/
theorem stops_basicBody (cs : List Char) : Stops (· == '"') (basicBody cs) := by
  cases cs with
  | nil => exact stops_nil _
  | cons c cs =>
    rw [basicBody]
    split
    · exact stops_cons _ (by decide)
    · next hquote => exact stops_escapeChar hquote _

/-- A character without an escape begins no line end, unless it is a line feed. -/
theorem isLineEnd_eq_false {c : Char} (hfeed : c ≠ '\n') (hcontrol : isControl c = false) :
    isLineEnd c = false := by
  rw [isLineEnd, beq_eq_false_iff_ne.2 hfeed, beq_eq_false_iff_ne.2 (ne_return hcontrol), Bool.or_false]

/-- A text without line feeds begins with no line end where it is written over several lines. -/
theorem stops_multilineBody {cs : List Char} (hfeed : '\n' ∉ cs) (rest : List Char) :
    Stops isLineEnd (multilineBody 0 cs ++ (['"', '"', '"'] ++ rest)) := by
  cases cs with
  | nil => exact stops_cons _ (by decide)
  | cons c cs =>
    have hne : c ≠ '\n' := fun h => hfeed (h ▸ List.mem_cons_self)
    rw [multilineBody]
    by_cases hquote : c = '"'
    · rw [if_pos hquote, if_neg (by decide)]
      exact stops_cons _ (by decide)
    · rw [if_neg hquote, if_neg hne, List.append_assoc]
      exact (written_escapeChar hquote).stops (by decide) isLineEnd_eq_false _

end TomlReader

namespace StringForm

open Reader TomlReader

/-- The quote that a form begins with. -/
def quote : StringForm → Char
  | .basic | .multilineBasic => '"'
  | .literal | .multilineLiteral => '\''

/-- Whether a form can hold a text. -/
def Holds (cs : List Char) : StringForm → Prop
  | .basic | .multilineBasic => True
  | .literal => ∀ c ∈ cs, c ≠ '\'' ∧ c ≠ '\n' ∧ isControl c = false
  | .multilineLiteral => (∀ c ∈ cs, isControl c = false) ∧ longestRun '\'' cs ≤ 2

/-- The form that is chosen for a text can hold it. -/
theorem holds_choose (cs : List Char) : (choose cs).Holds cs := by
  have hfree (h : (!cs.any isControl) = true) : ∀ c ∈ cs, isControl c = false := by
    simpa using h
  have hlacks {d : Char} (h : (!cs.contains d) = true) : ∀ c ∈ cs, c ≠ d := by
    rintro c hc rfl
    simp [hc] at h
  simp only [choose]
  split
  · exact trivial
  split
  · exact trivial
  split
  · next h =>
    simp only [Bool.and_eq_true] at h
    obtain ⟨⟨hcontrol, hquote⟩, hfeed⟩ := h
    exact fun c hc => ⟨hlacks hquote c hc, hlacks hfeed c hc, hfree hcontrol c hc⟩
  split
  · exact trivial
  split
  · next h =>
    simp only [Bool.and_eq_true, decide_eq_true_eq] at h
    exact ⟨hfree h.1, h.2⟩
  split
  · exact trivial
  · exact trivial

/-- A text is read back from every form that can hold it. -/
theorem run_string {cs : List Char} {form : StringForm} (hholds : form.Holds cs) :
    ∃ body, form.write cs = form.quote :: body ∧ ∀ rest, Stops (· == form.quote) rest →
      (string form.quote).run (body ++ rest) = .ok (String.ofList cs, rest) := by
  cases form with
  | basic =>
    refine ⟨basicBody cs ++ ['"'], rfl, fun rest hrest => ?_⟩
    rw [List.append_assoc]
    exact (run_string_line (stops_basicBody cs) hrest).trans (run_loop_basicBody cs rest)
  | literal =>
    have hcs : Stops (· == '\'') cs := fun c hc =>
      beq_eq_false_iff_ne.2 (hholds c (List.mem_of_mem_head? hc)).1
    refine ⟨cs ++ ['\''], rfl, fun rest hrest => ?_⟩
    rw [List.append_assoc]
    exact (run_string_line hcs hrest).trans (run_loop_literalBody hholds rest)
  | multilineBasic =>
    refine ⟨(wrapLines '"' cs (multilineBody 0 cs)).tail, rfl, fun rest hrest => ?_⟩
    exact (run_string_lines '"' fun hfeed => stops_multilineBody hfeed rest).trans
      ((writtenLines_multilineBody cs (Nat.zero_le 2)).run_loop (fun _ => if_pos rfl) [] hrest)
  | multilineLiteral =>
    obtain ⟨hcontrol, hrun⟩ := hholds
    refine ⟨(wrapLines '\'' cs cs).tail, rfl, fun rest hrest => ?_⟩
    have hcs (hfeed : '\n' ∉ cs) : Stops isLineEnd (cs ++ (['\'', '\'', '\''] ++ rest)) := by
      cases cs with
      | nil => exact stops_cons _ (by decide)
      | cons c cs =>
        have hne : c ≠ '\n' := fun h => hfeed (h ▸ List.mem_cons_self)
        exact stops_cons _ (isLineEnd_eq_false hne (hcontrol c List.mem_cons_self))
    exact (run_string_lines '\'' hcs).trans
      ((writtenLines_self hcontrol hrun).run_loop (fun _ => if_pos rfl) [] hrest)

end StringForm

end GrammarKit.Toml
