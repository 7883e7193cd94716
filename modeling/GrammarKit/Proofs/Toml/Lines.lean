import GrammarKit.Proofs.Toml.Strings
import GrammarKit.Toml.Document

/-!
# TOML documents are read line by line

What the lines of a document do to the tables that have been read before them. An entry and a header
each lead from one state of the document to the next, lines lead on from each other, and at the end of
the text the tables that they lead to are the document's entries.

Only the keys without quotes and the values at the end of a line are treated, as descriptions of
grammars use no others.
-/

namespace GrammarKit.Toml.TomlReader

open Reader

/-- Blanks are passed over. -/
theorem run_space {ws rest : List Char} (hws : ∀ c ∈ ws, isSpace c = true)
    (hrest : Stops isSpace rest) : space.run (ws ++ rest) = .ok ((), rest) := by
  rw [space, run_bind_ok (run_takeWhile hws hrest), run_pure]

/-- Nothing is passed over where no blank comes. -/
theorem run_space_nil {rest : List Char} (hrest : Stops isSpace rest) :
    space.run rest = .ok ((), rest) := by
  rw [space, run_bind_ok (run_takeWhile_nil hrest), run_pure]

/-- A key that is written without quotes. -/
structure BareKey (name : String) (c : Char) (cs : List Char) : Prop where
  chars : name.toList = c :: cs
  bare : (c :: cs).all isBare = true

/-- A key without quotes begins with none of the signs that cannot stand in it. -/
theorem BareKey.ne {name : String} {c d : Char} {cs : List Char} (hkey : BareKey name c cs)
    (hd : isBare d = false) : c ≠ d := by
  rintro rfl
  exact Bool.false_ne_true (hd.symm.trans (List.all_eq_true.1 hkey.bare c List.mem_cons_self))

/-- A key without quotes begins with no blank. -/
theorem BareKey.isSpace {name : String} {c : Char} {cs : List Char} (hkey : BareKey name c cs) :
    TomlReader.isSpace c = false := by
  rw [TomlReader.isSpace, beq_eq_false_iff_ne.2 (hkey.ne (by decide)),
    beq_eq_false_iff_ne.2 (hkey.ne (by decide)), Bool.or_false]

/-- A key without quotes is read up to the sign that stops it. -/
theorem run_key {name : String} {c stop : Char} {cs ws : List Char} (hkey : BareKey name c cs)
    (hws : ∀ w ∈ ws, isSpace w = true) (hstop : isBare stop = false) (hspace : isSpace stop = false)
    (hdot : stop ≠ '.') (rest : List Char) :
    (key stop c).run (cs ++ (ws ++ stop :: rest)) = .ok (([], name), rest) := by
  have hbare : ∀ d ∈ c :: cs, isBare d = true := List.all_eq_true.1 hkey.bare
  have hname : String.ofList (c :: cs) = name := by rw [← hkey.chars, String.ofList_toList]
  have hstops : Stops isBare (ws ++ stop :: rest) := by
    cases ws with
    | nil => exact stops_cons _ hstop
    | cons w ws =>
      have hw := hws w List.mem_cons_self
      have hblank : w = ' ' ∨ w = '\t' := by simpa [isSpace] using hw
      rcases hblank with rfl | rfl
      · exact stops_cons _ (by decide)
      · exact stops_cons _ (by decide)
  have hpart : (keyPart c).run (cs ++ (ws ++ stop :: rest)) = .ok (name, ws ++ stop :: rest) := by
    have hquotes : ¬(c = '"' ∨ c = '\'') :=
      fun h => h.elim (hkey.ne (by decide)) (hkey.ne (by decide))
    rw [keyPart, if_neg hquotes, if_pos (hbare c List.mem_cons_self), run_bind_ok
      (run_takeWhile (fun d hd => hbare d (List.mem_cons_of_mem c hd)) hstops), run_pure, hname]
  rw [key, run_bind_ok hpart, run_loop_skip ws fun w hw => if_pos (hws w hw)]
  apply run_loop_done
  rw [keyStep, if_neg (by rw [hspace]; exact Bool.false_ne_true), if_neg hdot, if_pos rfl, run_pure]
  rfl

/-- How a value may be written on the rest of a line. -/
inductive WrittenValue (v : Value) : List Char → Prop where
  | mk {c : Char} {cs : List Char} (hspace : isSpace c = false)
      (hread : ∀ rest, (value roomLimit c).run (cs ++ '\n' :: rest) = .ok (v, '\n' :: rest)) :
      WrittenValue v (c :: cs)

/-- Strings are written as values. -/
theorem writtenValue_string (s : String) : WrittenValue (.string s) (stringChars s) := by
  obtain ⟨body, hbody, hread⟩ := StringForm.run_string (StringForm.holds_choose s.toList)
  rw [stringChars, hbody]
  generalize StringForm.choose s.toList = form at hread
  have hquote : form.quote = '"' ∨ form.quote = '\'' := by cases form <;> decide
  have hspace : isSpace form.quote = false := by cases form <;> decide
  have hfeed (rest : List Char) : Stops (· == form.quote) ('\n' :: rest) :=
    stops_cons _ (by cases form <;> decide)
  refine .mk hspace fun rest => ?_
  rw [roomLimit, value, if_pos hquote, run_bind_ok (hread _ (hfeed rest)), run_pure,
    String.ofList_toList]

/-- The array without items is written as a value. -/
theorem writtenValue_empty : WrittenValue (.array []) ['[', ']'] := by
  refine .mk (by decide) fun rest => ?_
  have hclose : (arrayStep (value 78) (true, []) ']').run ('\n' :: rest) =
      .ok (.inr (.array []), '\n' :: rest) := rfl
  rw [roomLimit, value, if_neg (by decide), if_pos rfl]
  exact run_loop_done hclose

/-- An entry is added to the table that its line belongs to. -/
theorem run_member {name : String} {c : Char} {cs text : List Char} {v : Value}
    (hkey : BareKey name c cs) (hvalue : WrittenValue v text) {path : List String} {es es' : Entries}
    (hadd : es.changeAt false (Entries.addDotted [] name v) path .headed = some es')
    (rest : List Char) :
    (member (value roomLimit) .headed path es c).run
        (cs ++ ([' '] ++ '=' :: ([' '] ++ (text ++ '\n' :: rest)))) = .ok (es', '\n' :: rest) := by
  have hblank : ∀ w ∈ [' '], isSpace w = true := List.forall_mem_singleton.2 rfl
  cases hvalue with
  | @mk d ds hspace hread =>
    have hspaces : space.run ([' '] ++ (d :: ds ++ '\n' :: rest)) = .ok ((), d :: ds ++ '\n' :: rest) :=
      run_space hblank (stops_cons _ hspace)
    have hfirst : char.run (d :: ds ++ '\n' :: rest) = .ok (d, ds ++ '\n' :: rest) := run_char d _
    rw [member, run_bind_ok (run_key hkey hblank (by decide) (by decide) (by decide) _)]
    simp only [run_bind_ok hspaces, run_bind_ok hfirst, run_bind_ok (hread rest)]
    rw [hadd, orMalformed, run_pure]

/-- The header of one more table in a list is read up to its last bracket. -/
theorem run_header_tables {name : String} {c : Char} {cs : List Char} (hkey : BareKey name c cs)
    {doc : Progress} {root : Entries} (hopen : doc.root.openTables [] name = some root)
    (rest : List Char) :
    (header doc).run ('[' :: c :: (cs ++ (']' :: ']' :: rest))) = .ok (⟨root, [name]⟩, rest) := by
  have hnone : ∀ w ∈ ([] : List Char), isSpace w = true := fun w hw => nomatch hw
  have heat : (eat ['['] : TomlReader Bool).run ('[' :: c :: (cs ++ (']' :: ']' :: rest))) =
      .ok (true, c :: (cs ++ (']' :: ']' :: rest))) := run_eat ['['] _
  have hread : (key ']' c).run (cs ++ (']' :: ']' :: rest)) = .ok (([], name), ']' :: rest) :=
    run_key hkey hnone (by decide) (by decide) (by decide) (']' :: rest)
  rw [header, run_bind_ok heat, run_bind_ok (run_space_nil (stops_cons _ hkey.isSpace)),
    run_bind_ok (run_char _ _), run_bind_ok hread]
  simp only [if_pos, run_bind_ok (run_char _ _), hopen, orMalformed]
  rfl

/-- A line that has said something ends at its line feed. -/
theorem run_lineRest (rest : List Char) : lineRest.run ('\n' :: rest) = .ok ((), '\n' :: rest) := by
  rw [lineRest, run_bind_ok (run_space_nil (stops_cons _ (by decide))), run_bind_ok (run_peek _)]
  rfl

/-- A text leads from one state of a document to another if reading it does, whatever comes behind. -/
def Leads (doc : Progress) (text : List Char) (doc' : Progress) : Prop :=
  ∀ (finish : Progress → Except TomlError Entries) (rest : List Char),
    (loop lineStep finish doc).run (text ++ rest) = (loop lineStep finish doc').run rest

namespace Leads

variable {doc doc' doc'' : Progress}

/-- Texts lead on from each other. -/
theorem append {text text' : List Char} (h : Leads doc text doc') (h' : Leads doc' text' doc'') :
    Leads doc (text ++ text') doc'' := by
  intro finish rest
  rw [List.append_assoc, h, h']

/-- A line end leads nowhere. -/
theorem lineEnd (doc : Progress) : Leads doc ['\n'] doc := by
  intro finish rest
  exact run_loop_next (run_pure _ _)

/-- An entry leads to the tables that it has been added to. -/
theorem entry {name : String} {c : Char} {cs text : List Char} {v : Value} {root : Entries}
    (hkey : BareKey name c cs) (hvalue : WrittenValue v text)
    (hadd : doc.root.changeAt false (Entries.addDotted [] name v) doc.path .headed = some root) :
    Leads doc (c :: cs ++ [' ', '=', ' '] ++ text ++ ['\n']) ⟨root, doc.path⟩ := by
  intro finish rest
  have hline : c :: cs ++ [' ', '=', ' '] ++ text ++ ['\n'] ++ rest =
      c :: (cs ++ ([' '] ++ '=' :: ([' '] ++ (text ++ '\n' :: rest)))) := by
    simp
  have hround : (lineStep doc c).run (cs ++ ([' '] ++ '=' :: ([' '] ++ (text ++ '\n' :: rest)))) =
      .ok (.inl ⟨root, doc.path⟩, '\n' :: rest) := by
    have hfeed : c ≠ '\n' := hkey.ne (by decide)
    rw [lineStep, if_neg (by simp [hkey.isSpace, hfeed]), if_neg (hkey.ne (by decide)),
      if_neg (hkey.ne (by decide)), if_neg (hkey.ne (by decide)),
      run_bind_ok (run_member hkey hvalue hadd rest), run_bind_ok (run_lineRest rest), run_pure]
  rw [hline, run_loop_next hround]
  exact lineEnd _ finish rest

/-- The header of one more table in a list leads to that table. -/
theorem tables {name : String} {c : Char} {cs : List Char} {root : Entries}
    (hkey : BareKey name c cs) (hopen : doc.root.openTables [] name = some root) :
    Leads doc ('[' :: '[' :: c :: cs ++ [']', ']', '\n']) ⟨root, [name]⟩ := by
  intro finish rest
  have hline : '[' :: '[' :: c :: cs ++ [']', ']', '\n'] ++ rest =
      '[' :: '[' :: c :: (cs ++ (']' :: ']' :: '\n' :: rest)) := by
    simp
  have hround : (lineStep doc '[').run ('[' :: c :: (cs ++ (']' :: ']' :: '\n' :: rest))) =
      .ok (.inl ⟨root, [name]⟩, '\n' :: rest) := by
    rw [lineStep, if_neg (by decide), if_neg (by decide), if_neg (by decide), if_pos rfl,
      run_bind_ok (run_header_tables hkey hopen _), run_bind_ok (run_lineRest rest), run_pure]
  rw [hline, run_loop_next hround]
  exact lineEnd _ finish rest

/-- A text that leads to some tables denotes them. -/
theorem ofText {text : List Char} (h : Leads {} text doc) (hmark : text.head? ≠ some '\ufeff') :
    Entries.ofText (String.ofList text) = .ok doc.root := by
  have hlines := h (fun doc => .ok doc.root) []
  rw [List.append_nil, loop_nil] at hlines
  have hread : document.run text = .ok (doc.root, []) := by
    rw [document, run_bind_ok (run_eat_of_head_ne hmark)]
    exact hlines
  rw [Entries.ofText, String.toList_ofList, whole_of_run hread]

end Leads

end GrammarKit.Toml.TomlReader
