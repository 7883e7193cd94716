import GrammarKit.CommandLine.Outcome
import GrammarKit.Proofs.Description.Stored
import GrammarKit.Proofs.Grammar.Loading

/-!
# Converting normalizes

What a conversion prints is the description of the loaded grammar: the first token of each kind, in
order. It depends on the description in the file alone, so that another conversion on the way, which
leaves just these tokens, changes nothing about it: neither one to the same format nor one to the
other.
-/

namespace GrammarKit

namespace Command

variable {s : Surroundings} {path : String} {d : GrammarDescription}

/-- The conversion of a description that is loaded prints what the grammar describes. -/
theorem outcome_convert_of_ok (hfile : (GrammarFile.ofPath path).decode (s.file path) = .ok d)
    {g : Grammar} (hload : Grammar.ofDescription d = .ok g) (target : DescriptionFormat)
    (mode : OutputMode) :
    ((Command.convert path target).outcome s mode).output = target.write g.describe ++ "\n" ∧
      ((Command.convert path target).outcome s mode).ending = .success := by
  have houtcome : (Command.convert path target).outcome s mode = convertFile s path target := rfl
  rw [houtcome]
  simp only [convertFile, withDescription, hfile, converted, hload, Except.map,
    linesText_singleton, and_self]

/-- The conversion of a description that is refused prints nothing and fails for the same reason. -/
theorem outcome_convert_of_error (hfile : (GrammarFile.ofPath path).decode (s.file path) = .ok d)
    {e : DefinitionError} (hload : Grammar.ofDescription d = .error e) (target : DescriptionFormat)
    (mode : OutputMode) :
    ((Command.convert path target).outcome s mode).output = "" ∧
      ((Command.convert path target).outcome s mode).ending = .failure ⟨e.message, none⟩ := by
  have houtcome : (Command.convert path target).outcome s mode = convertFile s path target := rfl
  rw [houtcome]
  simp only [convertFile, withDescription, hfile, converted, hload, Except.map, Outcome.failed,
    and_self]

/-- A file that holds what a conversion has printed holds the description of the grammar. -/
theorem decode_printed {path' : String} {content : Except FileError ByteArray} {g : Grammar}
    (hcontent : content =
      .ok ((GrammarFile.ofPath path').format.write g.describe ++ "\n").toUTF8) :
    (GrammarFile.ofPath path').decode content = .ok g.describe := by
  rw [hcontent, GrammarFile.decode_toUTF8, DescriptionFormat.parse_write_line]

/-- The conversion of a file that holds a description fails exactly if the description is refused by
loading, and then prints nothing. Otherwise its output is read in the target format as the description
without the tokens whose kind has come before. If such an output, in any format, is put into a file of
that format and converted again, the target format being the same, then the same text is printed. -/
theorem outcome_convert (hfile : (GrammarFile.ofPath path).decode (s.file path) = .ok d)
    (target : DescriptionFormat) (mode : OutputMode) :
    (((Command.convert path target).outcome s mode).ending.exitCode ≠ 0 ↔
      ∃ e, Grammar.ofDescription d = .error e) ∧
    (∀ e, Grammar.ofDescription d = .error e →
      ((Command.convert path target).outcome s mode).output = "" ∧
      ((Command.convert path target).outcome s mode).ending = .failure ⟨e.message, none⟩) ∧
    (((Command.convert path target).outcome s mode).ending.exitCode = 0 →
      target.parse ((Command.convert path target).outcome s mode).output =
        .ok ⟨d.name, newcomers (·.kind) [] d.tokens⟩ ∧
      ∀ (between : DescriptionFormat) (s' : Surroundings) (path' : String) (mode' : OutputMode),
        (GrammarFile.ofPath path').format = between →
        s'.file path' = .ok ((Command.convert path between).outcome s mode).output.toUTF8 →
        ((Command.convert path' target).outcome s' mode').ending.exitCode = 0 ∧
        ((Command.convert path' target).outcome s' mode').output =
          ((Command.convert path target).outcome s mode).output) := by
  cases hload : Grammar.ofDescription d with
  | error e =>
    obtain ⟨houtput, hending⟩ := outcome_convert_of_error hfile hload target mode
    refine ⟨?_, ?_, ?_⟩
    · rw [hending]
      exact iff_of_true Nat.one_ne_zero ⟨e, rfl⟩
    · rintro e' ⟨⟩
      exact ⟨houtput, hending⟩
    · rw [hending]
      exact fun hcode => absurd hcode Nat.one_ne_zero
  | ok g =>
    obtain ⟨houtput, hending⟩ := outcome_convert_of_ok hfile hload target mode
    refine ⟨?_, fun e he => (nomatch he), fun _ => ⟨?_, ?_⟩⟩
    · rw [hending]
      exact iff_of_false (fun hcode => hcode rfl) fun ⟨e, he⟩ => nomatch he
    · rw [houtput, ← (Grammar.describe_of_ofDescription hload).2, DescriptionFormat.parse_write_line]
    · rintro between s' path' mode' rfl hcontent
      obtain ⟨g', hload', hdescribe⟩ := Grammar.exists_ofDescription_describe hload
      rw [(outcome_convert_of_ok hfile hload _ mode).1] at hcontent
      obtain ⟨houtput', hending'⟩ :=
        outcome_convert_of_ok (decode_printed hcontent) hload' target mode'
      rw [hending', houtput', houtput, hdescribe]
      exact ⟨rfl, rfl⟩

/-- A TOML file with a repeated kind is converted to JSON, directly, a second time and by way of
TOML. -/
theorem outcome_convert_repeated : ∃ (s s' : Surroundings) (d : GrammarDescription),
    d = ⟨"g", [⟨"a", "\"\\s"⟩, ⟨"b", "é'"⟩, ⟨"a", "c"⟩]⟩ ∧
    (GrammarFile.ofPath "g.toml").decode (s.file "g.toml") = .ok d ∧
    ((Command.convert "g.toml" .json).outcome s .human).ending.exitCode = 0 ∧
    DescriptionFormat.json.parse ((Command.convert "g.toml" .json).outcome s .human).output =
      .ok ⟨"g", [⟨"a", "\"\\s"⟩, ⟨"b", "é'"⟩]⟩ ∧
    s'.file "h.json" = .ok ((Command.convert "g.toml" .json).outcome s .human).output.toUTF8 ∧
    s'.file "h.toml" = .ok ((Command.convert "g.toml" .toml).outcome s .human).output.toUTF8 ∧
    ((Command.convert "h.json" .json).outcome s' .human).output =
      ((Command.convert "g.toml" .json).outcome s .human).output ∧
    ((Command.convert "h.toml" .json).outcome s' .human).output =
      ((Command.convert "g.toml" .json).outcome s .human).output := by
  let d : GrammarDescription := ⟨"g", [⟨"a", "\"\\s"⟩, ⟨"b", "é'"⟩, ⟨"a", "c"⟩]⟩
  let s : Surroundings := ⟨fun _ => .ok (DescriptionFormat.toml.write d).toUTF8, .empty⟩
  let s' : Surroundings := ⟨fun path =>
    .ok ((Command.convert "g.toml" (.ofPath path)).outcome s .human).output.toUTF8, .empty⟩
  have hfile : (GrammarFile.ofPath "g.toml").decode (s.file "g.toml") = .ok d :=
    (GrammarFile.ofPath "g.toml").decode_write d
  have hsound : ∀ t ∈ d.tokens, ¬ t.Faulty := by decide +kernel
  obtain ⟨hfails, -, hsucceeds⟩ := outcome_convert hfile .json .human
  have hending : ((Command.convert "g.toml" .json).outcome s .human).ending.exitCode = 0 := by
    obtain ⟨g, hload, -⟩ := Grammar.exists_ofDescription hsound
    by_contra hcode
    obtain ⟨e, he⟩ := hfails.1 hcode
    rw [hload] at he
    cases he
  obtain ⟨hread, hagain⟩ := hsucceeds hending
  exact ⟨s, s', d, rfl, hfile, hending, hread, rfl, rfl,
    (hagain .json s' "h.json" .human rfl rfl).2, (hagain .toml s' "h.toml" .human rfl rfl).2⟩

end Command

end GrammarKit
