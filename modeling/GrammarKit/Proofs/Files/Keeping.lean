import Mathlib.Data.List.Induction
import GrammarKit.Proofs.Description.Stored
import GrammarKit.Proofs.Files.Places

/-!
# Files keep descriptions

Grammar files of a directory are loaded and saved in turn. Several of them may share a path, in the
same format or in different ones, and the disk may refuse to write. What has been saved is told by
the history of the calls alone, and so is what a file shows: the description that was last saved at
its path, if that was done in the format of the file.
-/

namespace GrammarKit

/-- A call that loads or saves a grammar file. The disk may fail to write what is saved, and then it
writes nothing. -/
inductive FileCall where
  | load (f : GrammarFile)
  | save (f : GrammarFile) (x : GrammarDescription) (fault : Option FileError)

/-- What a call of a grammar file answers. -/
inductive FileAnswer where
  | loaded (x : GrammarDescription)
  | saved
  | failed (e : DescriptionError)

/-- The path of the grammar file that is loaded or saved. -/
def FileCall.path : FileCall → String
  | .load f => f.path
  | .save f _ _ => f.path

namespace GrammarFile

/-- Saves a description on a disk that may have a fault. -/
def saveOn (f : GrammarFile) (x : GrammarDescription) (d : Directory) :
    Option FileError → Except DescriptionError Directory
  | none => f.save x d
  | some cause => .error (.file f.path cause)

/-- What loading the file answers, by what was last saved at its path, in which format. -/
inductive Shows (f : GrammarFile) : Option (DescriptionFormat × GrammarDescription) → FileAnswer → Prop
  | kept (x : GrammarDescription) : Shows f (some (f.format, x)) (.loaded x)
  | foreign {written : DescriptionFormat} {e : DescriptionError} (x : GrammarDescription)
      (hformat : written ≠ f.format) (hrefused : f.format.Refusal e) :
      Shows f (some (written, x)) (.failed e)
  | nothing (cause : FileError) : Shows f none (.failed (.file f.path cause))

namespace Shows

variable {f : GrammarFile} {x : GrammarDescription} {written : DescriptionFormat} {answer : FileAnswer}

theorem eq_loaded (h : f.Shows (some (f.format, x)) answer) : answer = .loaded x := by
  cases h with
  | kept => rfl
  | foreign _ hformat _ => exact absurd rfl hformat

theorem exists_refusal (h : f.Shows (some (written, x)) answer) (hformat : written ≠ f.format) :
    ∃ e, answer = .failed e ∧ f.format.Refusal e := by
  cases h with
  | kept => exact absurd rfl hformat
  | foreign _ _ hrefused => exact ⟨_, rfl, hrefused⟩

theorem exists_cause (h : f.Shows none answer) : ∃ cause, answer = .failed (.file f.path cause) := by
  cases h with
  | nothing cause => exact ⟨cause, rfl⟩

end Shows

end GrammarFile

namespace Directory

variable {d : Directory} {calls : List FileCall} {call : FileCall} {path : String}

/-- The directory after a call, and the answer to the call. -/
def step (d : Directory) : FileCall → Directory × FileAnswer
  | .load f =>
    match f.load d with
    | .ok x => (d, .loaded x)
    | .error e => (d, .failed e)
  | .save f x fault =>
    match f.saveOn x d fault with
    | .ok d' => (d', .saved)
    | .error e => (d, .failed e)

/-- The directory after a run of calls. -/
def after (d : Directory) (calls : List FileCall) : Directory :=
  calls.foldl (fun d call => (d.step call).1) d

/-- The calls of a run, each with its answer. -/
def history (d : Directory) : List FileCall → List (FileCall × FileAnswer)
  | [] => []
  | call :: calls => (call, (d.step call).2) :: history (d.step call).1 calls

/-- The format and the description of a call that has saved one at a path. -/
def savedAt? (path : String) : FileCall × FileAnswer → Option (DescriptionFormat × GrammarDescription)
  | (.save f x _, .saved) => if f.path = path then some (f.format, x) else none
  | _ => none

/-- The format and the description of the last call that has saved one at a path. -/
def lastSaved? (path : String) (history : List (FileCall × FileAnswer)) :
    Option (DescriptionFormat × GrammarDescription) :=
  history.reverse.findSome? (savedAt? path)

theorem after_concat (d : Directory) (calls : List FileCall) (call : FileCall) :
    d.after (calls ++ [call]) = ((d.after calls).step call).1 := by
  rw [after, List.foldl_append]
  rfl

theorem history_concat (d : Directory) (calls : List FileCall) (call : FileCall) :
    d.history (calls ++ [call]) = d.history calls ++ [(call, ((d.after calls).step call).2)] := by
  induction calls generalizing d with
  | nil => rfl
  | cons first calls ih => exact congrArg (List.cons _) (ih (d.step first).1)

/-- The last call of a history decides, unless it has saved nothing at the path. -/
theorem lastSaved?_concat (path : String) (history : List (FileCall × FileAnswer))
    (last : FileCall × FileAnswer) :
    lastSaved? path (history ++ [last]) = (savedAt? path last).or (lastSaved? path history) := by
  rw [lastSaved?, List.reverse_concat, List.findSome?_cons]
  cases savedAt? path last <;> rfl

/-- A call leaves the directory as it is, or it writes a description at the path of its file. -/
theorem step_cases (d : Directory) (call : FileCall) :
    ((d.step call).2 ≠ .saved ∧ (d.step call).1 = d) ∨
      ∃ f x, call = .save f x none ∧ (d.step call).2 = .saved ∧
        d.write f.path (f.format.write x).toUTF8 = .ok (d.step call).1 := by
  cases call with
  | load f =>
    left
    rw [step]
    cases f.load d <;> exact ⟨nofun, rfl⟩
  | save f x fault =>
    cases fault with
    | some cause => exact .inl ⟨nofun, rfl⟩
    | none =>
      rw [step, GrammarFile.saveOn, GrammarFile.save]
      cases hwrite : d.write f.path (f.format.write x).toUTF8 with
      | error cause => exact .inl ⟨nofun, rfl⟩
      | ok d' => exact .inr ⟨f, x, rfl, rfl, hwrite⟩

/-- A call that has not saved anything at a path leaves what was last saved there. -/
theorem lastSaved?_history_concat (hcall : call.path = path → ((d.after calls).step call).2 ≠ .saved) :
    lastSaved? path (d.history (calls ++ [call])) = lastSaved? path (d.history calls) := by
  rw [history_concat, lastSaved?_concat]
  suffices h : savedAt? path (call, ((d.after calls).step call).2) = none by rw [h, Option.none_or]
  rcases (d.after calls).step_cases call with ⟨hanswer, -⟩ | ⟨f, x, rfl, hanswer, -⟩
  · cases call with
    | load f => rfl
    | save f x fault =>
      cases h : ((d.after calls).step (.save f x fault)).2 with
      | saved => exact absurd h hanswer
      | loaded x => rfl
      | failed e => rfl
  · rw [hanswer]
    exact if_neg fun hpath => hcall hpath hanswer

/-- Paths lead where they led before a run. -/
theorem leadsTo_after (d : Directory) (calls : List FileCall) (path : String) (place : List String) :
    (d.after calls).LeadsTo path place ↔ d.LeadsTo path place := by
  induction calls using List.reverseRecOn with
  | nil => rfl
  | append_singleton calls call ih =>
    rw [after_concat]
    rcases (d.after calls).step_cases call with ⟨-, hstep⟩ | ⟨f, x, -, -, hwrite⟩
    · rw [hstep, ih]
    · rw [leadsTo_of_write hwrite, ih]

/-- A file can be written wherever one could be written before a run. -/
theorem takes_after (htakes : d.Takes path) (calls : List FileCall) : (d.after calls).Takes path := by
  induction calls using List.reverseRecOn with
  | nil => exact htakes
  | append_singleton calls call ih =>
    rw [after_concat]
    rcases (d.after calls).step_cases call with ⟨-, hstep⟩ | ⟨f, x, -, -, hwrite⟩
    · rwa [hstep]
    · exact takes_of_write hwrite ih

/-- What is read at a path after a run is what was last saved there, as it was written. -/
theorem read_after (hd : d.Fileless) (hapart : d.Apart (path :: calls.map FileCall.path))
    (content : ByteArray) :
    (d.after calls).read path = .ok content ↔
      ∃ format x, lastSaved? path (d.history calls) = some (format, x) ∧
        content = (format.write x).toUTF8 := by
  induction calls using List.reverseRecOn generalizing content with
  | nil =>
    have hread : d.read path ≠ .ok content := fun h => by
      obtain ⟨-, place, -, hnode⟩ := read_eq_ok_iff.1 h
      exact hd place content hnode
    exact iff_of_false hread nofun
  | append_singleton calls call ih =>
    have hbefore : d.Apart (path :: calls.map FileCall.path) := hapart.mono <| by
      rw [List.map_append]
      exact List.cons_subset_cons _ (List.subset_append_left ..)
    rw [after_concat]
    rcases (d.after calls).step_cases call with ⟨hanswer, hstep⟩ | ⟨f, x, rfl, hanswer, hwrite⟩
    · rw [hstep, lastSaved?_history_concat fun _ => hanswer]
      exact ih hbefore content
    by_cases hpath : f.path = path
    · -- The call has saved a description at the path, which is the last one there.
      have hlast : lastSaved? path (d.history (calls ++ [.save f x none])) = some (f.format, x) := by
        rw [history_concat, lastSaved?_concat, hanswer, savedAt?, if_pos hpath, Option.some_or]
      rw [← hpath, read_of_write hwrite, hpath, hlast]
      simp [eq_comm]
    · have hcall : (FileCall.save f x none).path ≠ path := hpath
      rw [lastSaved?_history_concat fun h => absurd h hcall, ← ih hbefore content]
      refine read_of_write_of_apart hwrite fun place hlead hother => ?_
      rw [leadsTo_after] at hlead hother
      exact hapart f.path (by simp [FileCall.path]) path (by simp) hpath place hlead hother

/-- After a run a file shows what was last saved at its path. -/
theorem shows_load (f : GrammarFile) (hd : d.Fileless)
    (hapart : d.Apart (f.path :: calls.map FileCall.path)) :
    f.Shows (lastSaved? f.path (d.history calls)) ((d.after calls).step (.load f)).2 := by
  have hread := read_after hd hapart
  rw [step, GrammarFile.load]
  cases hlast : lastSaved? f.path (d.history calls) with
  | none =>
    cases hfile : (d.after calls).read f.path with
    | error cause => exact .nothing cause
    | ok content =>
      obtain ⟨format, x, hsome, -⟩ := (hread content).1 hfile
      rw [hlast] at hsome
      cases hsome
  | some saved =>
    obtain ⟨format, x⟩ := saved
    rw [(hread _).2 ⟨format, x, hlast, rfl⟩]
    by_cases hformat : format = f.format
    · subst hformat
      rw [f.decode_write]
      exact .kept x
    · obtain ⟨e, hparse, hrefused⟩ := DescriptionFormat.exists_refusal_of_ne hformat x
      rw [f.decode_toUTF8, hparse]
      exact .foreign x hformat hrefused

/-- Grammar files are a map from paths to descriptions. Where no file stands at first and different
paths lead to different places, a file shows after any run what was last saved at its path. Nothing
but another save there that succeeds changes that: other calls leave the directory as it is, or write
at another path. A save succeeds where the path leads to a place for a file and the disk has no
fault. -/
theorem files_keep_descriptions (f : GrammarFile) (hd : d.Fileless)
    (hapart : d.Apart (f.path :: calls.map FileCall.path)) :
    f.Shows (lastSaved? f.path (d.history calls)) ((d.after calls).step (.load f)).2 ∧
      (∀ before call behind, calls = before ++ call :: behind →
        (call.path = f.path → ((d.after before).step call).2 ≠ .saved) →
        f.Shows (lastSaved? f.path (d.history before))
          ((d.after (before ++ [call])).step (.load f)).2) ∧
      (∀ call, ((d.after calls).step call).2 ≠ .saved →
        ((d.after calls).step call).1 = d.after calls) ∧
      (d.Takes f.path → ∀ x, ((d.after calls).step (.save f x none)).2 = .saved) := by
  refine ⟨shows_load f hd hapart, ?_, ?_, ?_⟩
  · rintro before call behind rfl hcall
    rw [← lastSaved?_history_concat hcall]
    have hprefix : before ++ [call] ⊆ before ++ call :: behind := by
      rw [List.append_cons before call behind]
      exact List.subset_append_left ..
    exact shows_load f hd (hapart.mono <| List.cons_subset_cons _ (List.map_subset _ hprefix))
  · intro call hanswer
    rcases (d.after calls).step_cases call with ⟨-, hstep⟩ | ⟨-, -, -, hsaved, -⟩
    · exact hstep
    · exact absurd hsaved hanswer
  · intro htakes x
    obtain ⟨d', hwrite⟩ := (takes_after htakes calls).exists_write (f.format.write x).toUTF8
    rw [step, GrammarFile.saveOn, GrammarFile.save, hwrite]
    rfl

/-- Three paths, of which one is saved at in either format, one before a fault of the disk, and one
never. -/
theorem files_keep_descriptions_three : ∃ (d : Directory) (calls : List FileCall)
    (x y : GrammarDescription), x = ⟨"g", [⟨"a", "b"⟩]⟩ ∧ y = ⟨"h", []⟩ ∧
    d = ({} : Directory).makeDirectory "kept" ∧
    calls = [.save (.ofPath "kept/b.json") x none, .save (.ofPath "a.toml") x none,
      .load (.ofPath "a.toml"), .save (.ofPath "kept/b.json") y (some .invalidInput),
      .save ((GrammarFile.ofPath "a.toml").withFormat .json) y none] ∧
    d.Fileless ∧ d.Apart ["kept/b.json", "a.toml", "c.toml"] ∧
    ((d.after calls).step (.load (.ofPath "kept/b.json"))).2 = .loaded x ∧
    (∃ e, ((d.after calls).step (.load (.ofPath "a.toml"))).2 = .failed e ∧
      DescriptionFormat.toml.Refusal e) ∧
    ∃ cause, ((d.after calls).step (.load (.ofPath "c.toml"))).2 = .failed (.file "c.toml" cause) := by
  let x : GrammarDescription := ⟨"g", [⟨"a", "b"⟩]⟩
  let y : GrammarDescription := ⟨"h", []⟩
  let d : Directory := ({} : Directory).makeDirectory "kept"
  let calls : List FileCall := [.save (.ofPath "kept/b.json") x none,
    .save (.ofPath "a.toml") x none, .load (.ofPath "a.toml"),
    .save (.ofPath "kept/b.json") y (some .invalidInput),
    .save ((GrammarFile.ofPath "a.toml").withFormat .json) y none]
  have hd : d.Fileless := by
    intro place content
    have hnodes : d.nodes = [(["kept"], .directory)] := rfl
    rw [node?, hnodes, List.find?_cons, List.find?_nil]
    split
    · simp
    · split <;> simp
  have hapart : d.Apart ["kept/b.json", "a.toml", "c.toml"] := by
    have hplaces : ∀ p ∈ ["kept/b.json", "a.toml", "c.toml"],
        ∀ q ∈ ["kept/b.json", "a.toml", "c.toml"],
        p ≠ q → d.follow [] (parts p) ≠ d.follow [] (parts q) := by decide +kernel
    exact fun p hp q hq hne place hlead hother => hplaces p hp q hq hne (hlead.trans hother.symm)
  have hshows : ∀ f : GrammarFile, f.path ∈ ["kept/b.json", "a.toml", "c.toml"] →
      f.Shows (lastSaved? f.path (d.history calls)) ((d.after calls).step (.load f)).2 := by
    intro f hf
    refine (files_keep_descriptions f hd (hapart.mono ?_)).1
    exact List.cons_subset.2 ⟨hf, by decide⟩
  have hkept : lastSaved? "kept/b.json" (d.history calls) = some (.json, x) := by decide +kernel
  have hforeign : lastSaved? "a.toml" (d.history calls) = some (.json, y) := by decide +kernel
  have hnothing : lastSaved? "c.toml" (d.history calls) = none := by decide +kernel
  refine ⟨d, calls, x, y, rfl, rfl, rfl, rfl, hd, hapart, ?_, ?_, ?_⟩
  · exact (hkept ▸ hshows (.ofPath "kept/b.json") (by decide)).eq_loaded
  · exact (hforeign ▸ hshows (.ofPath "a.toml") (by decide)).exists_refusal (by decide)
  · exact (hnothing ▸ hshows (.ofPath "c.toml") (by decide)).exists_cause

end Directory

end GrammarKit
