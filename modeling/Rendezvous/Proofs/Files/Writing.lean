import Mathlib.Data.List.Basic
import Rendezvous.Files.Tree
import Rendezvous.Report

/-!
Writing a file and reading it again.

A path leads through directories only, and a file is not written where one stands.
So what is written changes no place on the way to it, and the path leads there
again.
-/

set_option autoImplicit false

namespace Rendezvous

namespace FileTree

variable {tree : FileTree}

theorem entry?_put_same {names : List String} (below : names ≠ []) (entry : FileEntry) :
    FileTree.entry? (tree.put names entry) names = some entry := by
  unfold entry?
  rw [if_neg below, put, List.lookup_cons_self]

theorem entry?_put_other {names other : List String} (different : other ≠ names)
    (entry : FileEntry) : FileTree.entry? (tree.put names entry) other = tree.entry? other := by
  have kept : ∀ entries : List (List String × FileEntry),
      (entries.filter (·.1 ≠ names)).lookup other = entries.lookup other := by
    intro entries
    induction entries with
    | nil => rfl
    | cons first rest inductionHypothesis =>
        obtain ⟨place, found⟩ := first
        by_cases same : place = names
        · have elsewhere : (other == place) = false := beq_eq_false_iff_ne.mpr (same ▸ different)
          rw [List.filter_cons_of_neg (by simp [same]), List.lookup_cons, elsewhere]
          exact inductionHypothesis
        · rw [List.filter_cons_of_pos (by simp [same]), List.lookup_cons, List.lookup_cons,
            inductionHypothesis]
  have elsewhere : (other == names) = false := beq_eq_false_iff_ne.mpr different
  unfold entry?
  simp only [put, List.lookup_cons, elsewhere, kept]

/-- A step is made from a directory only. -/
theorem walk_cons_eq_ok_iff {step : String} {steps names : List String} {place : Place} :
    tree.walk (step :: steps) names = .ok place ↔
      tree.entry? names = some .directory ∧ step.utf8ByteSize ≤ nameBound ∧
        tree.walk steps (follow names step) = .ok place := by
  rw [walk]
  cases found : tree.entry? names with
  | none => simp
  | some entry =>
      cases entry with
      | file => simp
      | directory =>
          by_cases long : nameBound < step.utf8ByteSize
          · simp [long, Nat.not_le.mpr long]
          · simp [long, Nat.le_of_not_lt long]

/-- A path leads to what is at the place to which it leads. -/
theorem entry_of_walk {steps names : List String} {place : Place}
    (reached : tree.walk steps names = .ok place) : place.entry = tree.entry? place.names := by
  induction steps generalizing names with
  | nil =>
      cases reached
      rfl
  | cons step steps inductionHypothesis =>
      exact inductionHypothesis (walk_cons_eq_ok_iff.mp reached).2.2

/-- A new file does not stand in its own way. -/
theorem walk_put {steps names : List String} {place : Place}
    (reached : tree.walk steps names = .ok place) (free : place.entry ≠ some .directory)
    (entry : FileEntry) :
    (tree.put place.names entry).walk steps names = .ok ⟨place.names, some entry⟩ := by
  have there := entry_of_walk reached
  induction steps generalizing names with
  | nil =>
      cases reached
      have below : names ≠ [] := by
        rintro rfl
        exact free rfl
      rw [walk, entry?_put_same below]
  | cons step steps inductionHypothesis =>
      obtain ⟨found, fits, further⟩ := walk_cons_eq_ok_iff.mp reached
      have elsewhere : names ≠ place.names := by
        rintro rfl
        exact free (there.trans found)
      refine walk_cons_eq_ok_iff.mpr ⟨?_, fits, inductionHypothesis further⟩
      rw [entry?_put_other elsewhere, found]

theorem place_put {path : String} {place : Place} (reached : tree.place path = .ok place)
    (free : place.entry ≠ some .directory) (entry : FileEntry) :
    (tree.put place.names entry).place path = .ok ⟨place.names, some entry⟩ := by
  unfold FileTree.place at reached ⊢
  split at reached
  · cases reached
  · next named =>
      split at reached
      · cases reached
      · next given =>
          split at reached
          · cases reached
          · next short =>
              rw [if_neg named, if_neg given, if_neg short]
              exact walk_put reached free entry

/-- What is written is a file at a place where no directory was. -/
theorem exists_put_of_write {after : FileTree} {path : String} {content : List UInt8}
    (written : tree.write path content = .ok after) :
    ∃ place executable, tree.place path = .ok place ∧ place.entry ≠ some .directory ∧
      after = tree.put place.names (.file content executable) := by
  unfold write at written
  dsimp only at written
  generalize (decide ((Path.steps path).length ≠ 0) && Path.endsInSlash path) = bare at written
  cases bare with
  | true =>
      rcases reached : tree.place (Path.withoutSlashes path) with cause | ⟨names, _ | _ | _⟩ <;>
        simp only [if_true, reached] at written <;> cases written
  | false =>
      rcases reached : tree.place path with cause | ⟨names, _ | ⟨old, executable⟩ | _⟩ <;>
        simp only [Bool.false_eq_true, if_false, reached] at written <;> cases written
      · exact ⟨_, false, rfl, nofun, rfl⟩
      · exact ⟨_, executable, rfl, nofun, rfl⟩

theorem readBytes_of_write {after : FileTree} {path : String} {content : List UInt8}
    (written : tree.write path content = .ok after) : after.readBytes path = .ok content := by
  obtain ⟨place, executable, reached, free, rfl⟩ := exists_put_of_write written
  have again := place_put reached free (.file content executable)
  rw [readBytes, stat, again]
  rfl

end FileTree

/-- A report that was written can be read back. -/
theorem readBytes_of_report {path : String} {result : RunResult} {files after : FileTree}
    (written : Report.write path result files = .ok after) :
    after.readBytes path = .ok (Utf8.encode (Report.text result)) := by
  unfold Report.write at written
  cases saved : files.write path (Utf8.encode (Report.text result)) <;> rw [saved] at written <;>
    cases written
  exact FileTree.readBytes_of_write saved

end Rendezvous
