import GrammarKit.Directory

/-!
# Files are read as they were written

A path is followed from the working directory, and a file is written at the place that it leads to.
No path leads over a file, so that it leads where it did before; what is read there is what was
written, and at any other place what was read before.
-/

namespace GrammarKit.Directory

variable {d d' : Directory} {path other : String} {place target : List String}
  {content content' : ByteArray}

/-- A path leads to a place. -/
def LeadsTo (d : Directory) (path : String) (place : List String) : Prop :=
  d.follow [] (parts path) = .ok place

/-- The working directory is one. -/
theorem node?_nil (d : Directory) : d.node? [] = some .directory := if_pos rfl

/-- A file changes the place alone that it is put at, where no directory is. -/
theorem node?_put_file (hplace : d.node? place ≠ some .directory) (target : List String) :
    (d.put place (.file content)).node? target =
      if target = place then some (.file content) else d.node? target := by
  have hne : place ≠ [] := by
    rintro rfl
    exact hplace d.node?_nil
  split
  · next h => rw [h, node?_put_self _ _ hne]
  · next h => exact node?_put_of_ne _ _ h

/-- Where no directory is, a file can be put without changing where paths lead. -/
theorem follow_put_file (hplace : d.node? place ≠ some .directory) (start ps : List String) :
    (d.put place (.file content)).follow start ps = .ok target ↔ d.follow start ps = .ok target := by
  induction ps generalizing start with
  | nil => rfl
  | cons part ps ih =>
    rw [follow, follow, node?_put_file hplace]
    by_cases hstart : start = place
    · -- The way ends at this place, before as after.
      subst hstart
      rw [if_pos rfl]
      cases hnode : d.node? start with
      | none => simp
      | some node =>
        cases node with
        | file before => simp
        | directory => exact absurd hnode hplace
    · rw [if_neg hstart]
      cases d.node? start with
      | none => simp
      | some node =>
        cases node with
        | file before => simp
        | directory =>
          dsimp only
          split
          · exact ih start
          split
          · exact ih start.tail
          split
          · exact Iff.rfl
          · exact ih (part :: start)

/-- What is read is the file at the place that the path leads to. -/
theorem read_eq_ok_iff : d.read path = .ok content ↔
    pathError? path = none ∧ ∃ place, d.LeadsTo path place ∧ d.node? place = some (.file content) := by
  rw [read]
  cases pathError? path with
  | some e => simp
  | none =>
    simp only [LeadsTo, true_and]
    cases d.follow [] (parts path) with
    | error e => simp
    | ok place =>
      simp only [Except.ok.injEq, exists_eq_left']
      cases d.node? place with
      | none => simp
      | some node => cases node <;> simp

/-- A file is written at the place that the path leads to, unless a directory is there. -/
theorem write_eq_ok_iff : d.write path content = .ok d' ↔
    pathError? path = none ∧ (parts path).getLast? ≠ some "" ∧ ∃ place, d.LeadsTo path place ∧
      d.node? place ≠ some .directory ∧ d' = d.put place (.file content) := by
  rw [write]
  cases pathError? path with
  | some e => simp
  | none =>
    by_cases hslash : (parts path).getLast? = some ""
    · simp only [hslash, if_true]
      cases d.follow [] (parts path).dropLast <;> simp
    · simp only [hslash, if_false, LeadsTo, true_and, ne_eq, not_false_eq_true]
      cases d.follow [] (parts path) with
      | error e => simp
      | ok place =>
        simp only [Except.ok.injEq, exists_eq_left']
        cases d.node? place with
        | none => simp [eq_comm]
        | some node => cases node <;> simp [eq_comm]

/-- What has been written is read back. -/
theorem read_of_write (h : d.write path content = .ok d') : d'.read path = .ok content := by
  obtain ⟨hpath, -, place, hlead, hplace, rfl⟩ := write_eq_ok_iff.1 h
  refine read_eq_ok_iff.2 ⟨hpath, place, (follow_put_file hplace [] _).2 hlead, ?_⟩
  rw [node?_put_file hplace, if_pos rfl]

/-- What is read at another place is as it was. -/
theorem read_of_write_of_apart (h : d.write path content = .ok d')
    (hapart : ∀ place, d.LeadsTo path place → ¬ d.LeadsTo other place) :
    d'.read other = .ok content' ↔ d.read other = .ok content' := by
  obtain ⟨-, -, place, hlead, hplace, rfl⟩ := write_eq_ok_iff.1 h
  rw [read_eq_ok_iff, read_eq_ok_iff]
  refine and_congr_right fun _ => exists_congr fun target => ?_
  rw [LeadsTo, follow_put_file hplace, node?_put_file hplace]
  refine and_congr_right fun htarget => ?_
  rw [if_neg]
  rintro rfl
  exact hapart target hlead htarget

/-- Paths lead where they led before a file was written. -/
theorem leadsTo_of_write (h : d.write path content = .ok d') :
    d'.LeadsTo other place ↔ d.LeadsTo other place := by
  obtain ⟨-, -, written, -, hwritten, rfl⟩ := write_eq_ok_iff.1 h
  exact follow_put_file hwritten [] _

/-- A file can be written at a path. -/
def Takes (d : Directory) (path : String) : Prop :=
  pathError? path = none ∧ (parts path).getLast? ≠ some "" ∧
    ∃ place, d.LeadsTo path place ∧ d.node? place ≠ some .directory

theorem Takes.exists_write (h : d.Takes path) (content : ByteArray) :
    ∃ d', d.write path content = .ok d' := by
  obtain ⟨hpath, hslash, place, hlead, hplace⟩ := h
  exact ⟨_, write_eq_ok_iff.2 ⟨hpath, hslash, place, hlead, hplace, rfl⟩⟩

/-- A file can be written again wherever one could be written before. -/
theorem takes_of_write (h : d.write path content = .ok d') (hother : d.Takes other) :
    d'.Takes other := by
  obtain ⟨hpath, hslash, place, hlead, hplace⟩ := hother
  refine ⟨hpath, hslash, place, (leadsTo_of_write h).2 hlead, ?_⟩
  obtain ⟨-, -, written, -, hwritten, rfl⟩ := write_eq_ok_iff.1 h
  rw [node?_put_file hwritten]
  split
  · simp
  · exact hplace

/-- No file stands in the directory. -/
def Fileless (d : Directory) : Prop := ∀ place content, d.node? place ≠ some (.file content)

/-- Different paths of these lead to different places. -/
def Apart (d : Directory) (paths : List String) : Prop :=
  ∀ p ∈ paths, ∀ q ∈ paths, p ≠ q → ∀ place, d.LeadsTo p place → ¬ d.LeadsTo q place

/-- What holds of paths holds of any of them. -/
theorem Apart.mono {paths paths' : List String} (h : d.Apart paths') (hsub : paths ⊆ paths') :
    d.Apart paths :=
  fun p hp q hq => h p (hsub hp) q (hsub hq)

end GrammarKit.Directory
